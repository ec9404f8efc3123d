import Ipsc2Hbp.Construction.DmrCodec
import Ipsc2Hbp.Construction.Packets
import Ipsc2Hbp.Library.ByteCounter
import Ipsc2Hbp.Proof.CallOpenings
import Ipsc2Hbp.Proof.Dmrd

namespace Ipsc2Hbp
open BigEndian ByteCounter

deriving instance DecidableEq for HbpFrame

instance decidableOpens (cfg : Config) (slot : Slot) : ∀ part : SlotEvent,
    Decidable (part.Opens cfg slot)
  | .hbpFrame .. => inferInstanceAs (Decidable (_ ∧ _))
  | .ipscVoice .. | .drain _ | .checkCallTimeouts .. | .peerLost | .hbpDisconnected => isFalse id

/-- The timeslot on which a callback opens an HBP call. -/
def Event.opens (cfg : Config) (tr : Translator) : Event → Option Timeslot
  | .hbpVoice registered dmrd draw clock =>
      (acceptedFrame registered dmrd).bind fun frame =>
        if (SlotEvent.hbpFrame frame draw clock).Opens cfg (tr.slot frame.timeslot) then
          some frame.timeslot
        else none
  | .ipscVoice .. | .drain .. | .checkCallTimeouts .. | .peerRegistered | .peerLost
  | .hbpDisconnected => none

/-- The timeslots of the HBP calls of a run in the order in which they are opened. -/
def callsOpened (dmr : DmrUtils) (cfg : Config) (events : List Event) : List Timeslot :=
  (translator dmr cfg).shown (Event.opens cfg) Translator.initial events

/-- The number of HBP calls that were opened since the last one of a timeslot. -/
def openedSince (dmr : DmrUtils) (cfg : Config) (ts : Timeslot) (events : List Event) : Nat :=
  since ts (callsOpened dmr cfg events)

/-- An HBP call is active on the timeslot. -/
def HbpActive (tr : Translator) (ts : Timeslot) : Prop := (tr.slot ts).inCall.lc.isSome = true

instance decidableHbpActive (tr : Translator) (ts : Timeslot) : Decidable (HbpActive tr ts) :=
  inferInstanceAs (Decidable (_ = true))

/-- The stream byte of the timeslot's HBP call, `_in_stream_id`. -/
def streamByte (tr : Translator) (ts : Timeslot) : UInt8 := (tr.slot ts).inCall.streamId

theorem Event.opens_of_some {cfg : Config} {tr : Translator} {event : Event} {ts : Timeslot}
    (opens : event.opens cfg tr = some ts) :
    ∃ frame draw clock, event.atSlot ts = some (.hbpFrame frame draw clock) ∧
      (∀ other, other ≠ ts → event.atSlot other = none) ∧
      (SlotEvent.hbpFrame frame draw clock).Opens cfg (tr.slot ts) := by
  cases event with
  | hbpVoice registered dmrd draw clock =>
      obtain ⟨frame, accepted, shown⟩ := Option.bind_eq_some_iff.mp opens
      obtain ⟨opened, here⟩ := Option.ite_none_right_eq_some.mp shown
      obtain rfl := Option.some.inj here
      refine ⟨frame, draw, clock, by simp [atSlot, accepted], fun other apart => ?_, opened⟩
      simp [atSlot, accepted, Ne.symm apart]
  | ipscVoice | drain | checkCallTimeouts | peerRegistered | peerLost | hbpDisconnected => cases opens

theorem Event.opensNot_of_none {cfg : Config} {tr : Translator} {event : Event} {ts : Timeslot}
    {part : SlotEvent} (opens : event.opens cfg tr = none) (seen : event.atSlot ts = some part) :
    ¬ part.Opens cfg (tr.slot ts) := by
  intro opened
  cases Event.atSlot_cases seen with
  | hbpVoice registered dmrd frame draw clock accepted here =>
      subst here
      simp only [Event.opens, accepted, Option.bind_some, if_pos opened] at opens
      cases opens
  | ipscVoice | drain | checkCallTimeouts | peerLost | hbpDisconnected => exact opened

/-- A callback that opens a call gives it the counter's next byte and leaves the other timeslot. -/
theorem Translator.step_opens (dmr : DmrUtils) {cfg : Config} {tr : Translator} {event : Event}
    {ts : Timeslot} (opens : event.opens cfg tr = some ts) :
    let after := (Translator.step dmr cfg tr event).1
    after.shared.inStreamCtr = tr.shared.inStreamCtr + 1 ∧
      streamByte after ts = tr.shared.inStreamCtr + 1 ∧
      ∀ other, other ≠ ts → after.slot other = tr.slot other := by
  obtain ⟨frame, draw, clock, seen, apart, opened⟩ := Event.opens_of_some opens
  obtain ⟨lc, lock, counted, continued⟩ := slotStep_openHbpCall dmr ts tr.shared opened
  refine ⟨?_, ?_, fun other differs => (step_unseen dmr cfg tr (apart other differs)).1⟩
  · rw [step_seen_shared dmr cfg tr seen, counted]
    rfl
  · unfold streamByte
    rw [(step_seen dmr cfg tr seen).1, continued.streamId]
    rfl

/-- A callback that concerns no timeslot leaves the shared fields. -/
theorem Translator.step_unheard (dmr : DmrUtils) (cfg : Config) (tr : Translator) {event : Event}
    (unheard : ∀ ts, event.atSlot ts = none) :
    (Translator.step dmr cfg tr event).1.shared = tr.shared := by
  cases event with
  | ipscVoice connected data ts => exact absurd (unheard ts) (by simp [Event.atSlot])
  | hbpVoice registered dmrd draw clock =>
      simp only [step, hbpVoiceReceived_eq]
      cases accepted : acceptedFrame registered dmrd with
      | none => rfl
      | some frame => exact absurd (unheard frame.timeslot) (by simp [Event.atSlot, accepted])
  | drain | checkCallTimeouts | peerRegistered | hbpDisconnected => rfl
  | peerLost => exact absurd (unheard .ts1) (by simp [Event.atSlot])

/-- A callback that opens no call takes no byte, and every active call has been active before with
the same byte. -/
theorem Translator.step_opensNot (dmr : DmrUtils) {cfg : Config} {tr : Translator} {event : Event}
    (opens : event.opens cfg tr = none) :
    let after := (Translator.step dmr cfg tr event).1
    after.shared.inStreamCtr = tr.shared.inStreamCtr ∧
      ∀ ts, HbpActive after ts → HbpActive tr ts ∧ streamByte after ts = streamByte tr ts := by
  intro after
  constructor
  · by_cases heard : ∃ ts part, event.atSlot ts = some part
    · obtain ⟨ts, part, seen⟩ := heard
      have opensNot := Event.opensNot_of_none opens seen
      change (Translator.step dmr cfg tr event).1.shared.inStreamCtr = _
      rw [step_seen_shared dmr cfg tr seen]
      exact (slotStep_unopened dmr ts tr.shared opensNot).1
    · have unheard ts : event.atSlot ts = none := by
        rw [Option.eq_none_iff_forall_not_mem]
        exact fun part seen => heard ⟨ts, part, seen⟩
      exact congrArg Shared.inStreamCtr (step_unheard dmr cfg tr unheard)
  · intro ts active
    unfold HbpActive streamByte at *
    cases seen : event.atSlot ts with
    | none =>
        have same : after.slot ts = tr.slot ts := (step_unseen dmr cfg tr seen).1
        rw [same] at active ⊢
        exact ⟨active, rfl⟩
    | some part =>
        have stepped : after.slot ts = (slotStep dmr cfg ts tr.shared (tr.slot ts) part).2.1 :=
          (step_seen dmr cfg tr seen).1
        obtain ⟨-, ⟨-, ended | ⟨opened, -⟩⟩, byte⟩ := slotStep_unopened dmr ts tr.shared
          (Event.opensNot_of_none opens seen)
        · rw [stepped, ended] at active
          cases active
        · rw [stepped] at active ⊢
          exact ⟨opened.symm.trans active, byte active⟩

/-- In every run each active call has the byte that the counter gave its timeslot last. -/
theorem run_tagged (dmr : DmrUtils) (cfg : Config) (events : List Event) :
    let after := ((translator dmr cfg).run Translator.initial events).1
    Tagged after.shared.inStreamCtr (callsOpened dmr cfg events) (HbpActive after)
      (streamByte after) := by
  refine (translator dmr cfg).run_shown (Event.opens cfg) (fun opened tr => Tagged
    tr.shared.inStreamCtr opened (HbpActive tr) (streamByte tr)) ?_ [] Translator.initial events ?_
  · intro opened tr event tagged
    change Tagged (Translator.step dmr cfg tr event).1.shared.inStreamCtr _
      (HbpActive (Translator.step dmr cfg tr event).1) (streamByte (Translator.step dmr cfg tr event).1)
    cases opens : event.opens cfg tr with
    | some ts =>
        obtain ⟨counted, taken, others⟩ := Translator.step_opens dmr opens
        rw [counted]
        refine tagged.issue taken fun other apart active => ?_
        unfold HbpActive streamByte at *
        rw [others other apart] at active ⊢
        exact ⟨active, rfl⟩
    | none =>
        obtain ⟨counted, kept⟩ := Translator.step_opensNot dmr opens
        rw [counted, Option.toList_none, List.append_nil]
        exact tagged.keep kept
  · intro ts active
    cases active

/-- The last call that was opened has none after it. -/
theorem since_eq_zero (opened : List Timeslot) : since .ts1 opened = 0 ∨ since .ts2 opened = 0 := by
  rcases List.eq_nil_or_concat' opened with rfl | ⟨earlier, ts, rfl⟩
  · exact .inl rfl
  · cases ts with
    | ts1 => exact .inl (since_append_self ..)
    | ts2 => exact .inr (since_append_self ..)

/-- In every reachable state with calls active on both timeslots their stream bytes differ exactly
when, since the earlier of the two was opened, the number of calls opened on the other timeslot is not
a multiple of 256. -/
theorem streamBytes_distinct_iff (dmr : DmrUtils) (cfg : Config) (events : List Event) :
    let after := ((translator dmr cfg).run Translator.initial events).1
    HbpActive after .ts1 → HbpActive after .ts2 →
      (streamByte after .ts1 ≠ streamByte after .ts2 ↔
        ∃ ts, openedSince dmr cfg ts events % 256 ≠ 0) := by
  intro after first second
  rw [ne_eq, (run_tagged dmr cfg events).tag_eq_iff first second]
  constructor
  · intro apart
    rcases since_eq_zero (callsOpened dmr cfg events) with last | last
    · refine ⟨.ts2, fun wrapped => apart ?_⟩
      rw [last]
      exact wrapped.symm
    · refine ⟨.ts1, fun wrapped => apart ?_⟩
      rw [last]
      exact wrapped
  · rintro ⟨ts, unwrapped⟩ same
    rcases since_eq_zero (callsOpened dmr cfg events) with last | last <;> rw [last] at same
    · cases ts with
      | ts1 => exact unwrapped (by rw [openedSince, last])
      | ts2 => exact unwrapped same.symm
    · cases ts with
      | ts1 => exact unwrapped same
      | ts2 => exact unwrapped (by rw [openedSince, last])

/-- A frame of a master on timeslot 2. -/
def slot2Frame (kind : UInt8) (payload : Bytes) (call : Nat) : Bytes :=
  dmrdFrame {} 0 [0, 0, 8] [0, 0, 2] (hbpfTgidTs2 ||| hbpfFrametypeDatasync ||| kind)
    (natToBytes 4 call) payload

def slot2Lc : Bytes := dmrCodec.lcOpt ++ [0, 0, 2] ++ [0, 0, 8]

def slot2HeadPayload : Bytes :=
  lcPayload dmrCodec (dmrCodec.encodeHeaderLc slot2Lc) dmrCodec.slotTypeVoiceLcHead

def slot2TermPayload : Bytes :=
  lcPayload dmrCodec (dmrCodec.encodeTerminatorLc slot2Lc) dmrCodec.slotTypeVoiceLcTerm

/-- The VOICE_LC_HEAD frame of a call on timeslot 2. -/
def slot2Head (call : Nat) : Bytes := slot2Frame hbpfSltVhead slot2HeadPayload call

/-- The VOICE_LC_TERM frame of a call on timeslot 2. -/
def slot2Term (call : Nat) : Bytes := slot2Frame hbpfSltVterm slot2TermPayload call

/-- A frame of the master arrives. -/
def arrival (dmrd : Bytes) (now : Time) : Event := .hbpVoice true dmrd rtpDraw fun _ => now

/-- A call on each timeslot. -/
def twoCalls : List Event :=
  [arrival (masterHead dmrCodec [1, 2, 3, 4] [0, 0, 7] [0, 0, 1]) 100, arrival (slot2Head 0) 100]

theorem streamBytes_distinct_iff_two :
    let after := ((translator dmrCodec {}).run Translator.initial twoCalls).1
    HbpActive after .ts1 ∧ HbpActive after .ts2 ∧ streamByte after .ts1 ≠ streamByte after .ts2 := by
  have first : HbpActive ((translator dmrCodec {}).run Translator.initial twoCalls).1 .ts1 := by
    decide +kernel
  have second : HbpActive ((translator dmrCodec {}).run Translator.initial twoCalls).1 .ts2 := by
    decide +kernel
  refine ⟨first, second, (streamBytes_distinct_iff dmrCodec {} twoCalls first second).mpr ⟨.ts1, ?_⟩⟩
  decide +kernel

/-- The call on timeslot 2 ends without voice and the next one begins. -/
def nextCall (call : Nat) : List Event :=
  [arrival (slot2Term call) (100 + (call + 1) / 100),
    arrival (slot2Head (call + 1)) (100 + (call + 1) / 100)]

/-- Only frames of the master have come on the timeslot and no call has started. -/
structure Unstarted (slot : Slot) : Prop where
  lock : slot.lock.OpenFor .hbp
  started : slot.inCall.started = false

/-- A frame is let in on an unstarted timeslot. -/
theorem Unstarted.outcome {slot : Slot} (unstarted : Unstarted slot) (dmr : DmrUtils) (cfg : Config)
    (ts : Timeslot) (shared : Shared) (frame : HbpFrame) (draw : RtpDraw) (clock : Clock) :
    (SlotEvent.hbpFrame frame draw clock).letIn cfg slot = some frame ∧
      ∃ lock : CallLock, lock.OpenFor .hbp ∧ HbpOutcome dmr cfg frame draw clock shared
        { slot with inCall.lastPkt := clock 0, lock := lock }
        (slotStep dmr cfg ts shared slot (.hbpFrame frame draw clock)) := by
  obtain ⟨lock, answer, opened⟩ := callLockBlocks_open cfg { slot with inCall.lastPkt := clock 0 }
    (.hbp frame.stream) unstarted.lock frame.srcSub frame.dstGroup frame.isTerm (clock 1)
  have tested : (hbpLockPacket frame clock).test cfg { slot with inCall.lastPkt := clock 0 } =
      (false, { slot with inCall.lastPkt := clock 0, lock := lock }) := answer
  have received : hbpFrameReceived dmr cfg frame draw clock shared slot = _ :=
    hbpFrameReceived_admitted dmr draw shared (congrArg Prod.fst tested)
  refine ⟨if_neg (by rw [tested]; exact Bool.false_ne_true), lock, opened, ?_⟩
  change HbpOutcome dmr cfg frame draw clock shared _
    (hbpFrameReceived dmr cfg frame draw clock shared slot)
  rw [received, tested]
  exact hbpAdmitted_cases ..

/-- A header on an unstarted timeslot without a call opens one that waits for voice. -/
theorem Unstarted.head {slot : Slot} (unstarted : Unstarted slot) (closed : slot.inCall.lc = none)
    (dmr : DmrUtils) (cfg : Config) (waits : cfg.hbpStartOnVoice = true) (ts : Timeslot)
    (shared : Shared) {frame : HbpFrame} (head : frame.isHead = true) (draw : RtpDraw)
    (clock : Clock) :
    (SlotEvent.hbpFrame frame draw clock).Opens cfg slot ∧
      Unstarted (slotStep dmr cfg ts shared slot (.hbpFrame frame draw clock)).2.1 := by
  have fresh now : duplicateHead frame now slot = false := by simp [duplicateHead, closed]
  obtain ⟨letIn, lock, opened, outcome⟩ := unstarted.outcome dmr cfg ts shared frame draw clock
  refine ⟨⟨letIn, .inl ⟨head, fresh (clock 0)⟩⟩, ?_⟩
  generalize slotStep dmr cfg ts shared slot (.hbpFrame frame draw clock) = result at outcome
  have unended := HbpFrame.isTerm_of_isHead head
  cases outcome with
  | foreignTerm => exact ⟨opened, unstarted.started⟩
  | headMerged => exact ⟨opened, unstarted.started⟩
  | headOpened call head fresh waits recorded =>
      subst recorded
      exact ⟨opened, rfl⟩
  | headStarted call head fresh atOnce => exact absurd (atOnce.symm.trans waits) Bool.false_ne_true
  | endedSilent term | ended term => exact absurd (unended.symm.trans term) Bool.false_ne_true
  | voiceIgnored notHead | voiceContinued notHead | voiceOpened call notHead =>
      exact absurd (notHead.symm.trans head) Bool.false_ne_true

/-- A terminator on an unstarted timeslot drops its call. -/
theorem Unstarted.term {slot : Slot} (unstarted : Unstarted slot) (dmr : DmrUtils) (cfg : Config)
    (flow : cfg.legacyFlow = false) (ts : Timeslot) (shared : Shared) {frame : HbpFrame}
    (term : frame.isTerm = true) (draw : RtpDraw) (clock : Clock) :
    let result := slotStep dmr cfg ts shared slot (.hbpFrame frame draw clock)
    ¬ (SlotEvent.hbpFrame frame draw clock).Opens cfg slot ∧ Unstarted result.2.1 ∧
      result.2.1.inCall.lc = none := by
  intro result
  obtain ⟨letIn, lock, opened, outcome⟩ := unstarted.outcome dmr cfg ts shared frame draw clock
  change HbpOutcome dmr cfg frame draw clock shared _ result at outcome
  have notHead : frame.isHead = false := by
    rw [Bool.eq_false_iff]
    intro head
    exact absurd ((HbpFrame.isTerm_of_isHead head).symm.trans term) Bool.false_ne_true
  constructor
  · rintro ⟨-, ⟨head, -⟩ | ⟨-, notTerm, -⟩⟩
    · exact absurd (notHead.symm.trans head) Bool.false_ne_true
    · exact absurd (notTerm.symm.trans term) Bool.false_ne_true
  generalize result = result at outcome ⊢
  cases outcome with
  | foreignTerm dropped => simp [legacyHbpStreamDrop, flow] at dropped
  | headMerged head | headOpened call head | headStarted call head =>
      exact absurd (notHead.symm.trans head) Bool.false_ne_true
  | endedSilent =>
      obtain ⟨lockUntil, released⟩ := releaseCallLock_frame cfg .hbp (clock 2) lock
      exact ⟨⟨by rw [endHbpCall, released]; exact ⟨opened.owner, opened.unrejected⟩, rfl⟩, rfl⟩
  | ended term started => exact absurd (unstarted.started.symm.trans started) Bool.false_ne_true
  | voiceIgnored notHead notTerm | voiceContinued notHead notTerm | voiceOpened call notHead notTerm =>
      exact absurd (notTerm.symm.trans term) Bool.false_ne_true

/-- The fields of a frame on timeslot 2. -/
def slot2Fields (kind : UInt8) (payload : Bytes) (call : Nat) : HbpFrame :=
  ⟨[0, 0, 8], [0, 0, 2], hbpfTgidTs2 ||| hbpfFrametypeDatasync ||| kind, natToBytes 4 call, payload⟩

theorem slot2Fields_head (payload : Bytes) (call : Nat) :
    (slot2Fields hbpfSltVhead payload call).timeslot = .ts2 ∧
      (slot2Fields hbpfSltVhead payload call).isHead = true := by
  have flags : let flags := hbpfTgidTs2 ||| hbpfFrametypeDatasync ||| hbpfSltVhead
      flags &&& hbpfTgidTs2 ≠ 0 ∧ flags &&& hbpfFrametypeMask = hbpfFrametypeDatasync ∧
        flags &&& hbpfDtypeMask = hbpfSltVhead := by decide
  obtain ⟨marked, sync, kind⟩ := flags
  exact ⟨if_pos marked, Bool.and_eq_true_iff.mpr ⟨decide_eq_true sync, decide_eq_true kind⟩⟩

theorem slot2Fields_term (payload : Bytes) (call : Nat) :
    (slot2Fields hbpfSltVterm payload call).timeslot = .ts2 ∧
      (slot2Fields hbpfSltVterm payload call).isTerm = true := by
  have flags : let flags := hbpfTgidTs2 ||| hbpfFrametypeDatasync ||| hbpfSltVterm
      flags &&& hbpfTgidTs2 ≠ 0 ∧ flags &&& hbpfFrametypeMask = hbpfFrametypeDatasync ∧
        flags &&& hbpfDtypeMask = hbpfSltVterm := by decide
  obtain ⟨marked, sync, kind⟩ := flags
  exact ⟨if_pos marked, Bool.and_eq_true_iff.mpr ⟨decide_eq_true sync, decide_eq_true kind⟩⟩

theorem slot2Frame_accepted (kind : UInt8) {payload : Bytes} (wide : payload.length = 33) (call : Nat) :
    acceptedFrame true (slot2Frame kind payload call) = some (slot2Fields kind payload call) := by
  have three : ∀ byte : UInt8, [0, 0, byte].length = 3 := fun _ => rfl
  have fields : DmrdFields (slot2Frame kind payload call) _ _ _ _ _ :=
    dmrdFrame_fields {} 0 (three 8) (three 2) (natToBytes_length 4 call) wide
      (hbpfTgidTs2 ||| hbpfFrametypeDatasync ||| kind)
  unfold acceptedFrame
  rw [fields.length, fields.marked, Option.map_some, fields.frame]
  rfl

/-- A frame on timeslot 2 is seen there and not on timeslot 1. -/
theorem arrival_atSlot {dmrd : Bytes} {frame : HbpFrame} (accepted : acceptedFrame true dmrd = some frame)
    (here : frame.timeslot = .ts2) (now : Time) :
    (arrival dmrd now).atSlot .ts2 = some (.hbpFrame frame rtpDraw fun _ => now) ∧
      (arrival dmrd now).atSlot .ts1 = none := by
  simp [arrival, Event.atSlot, accepted, here]

theorem arrival_opens {cfg : Config} {tr : Translator} {dmrd : Bytes} {frame : HbpFrame}
    (accepted : acceptedFrame true dmrd = some frame) (here : frame.timeslot = .ts2) (now : Time) :
    (arrival dmrd now).opens cfg tr =
      if (SlotEvent.hbpFrame frame rtpDraw fun _ => now).Opens cfg (tr.slot .ts2) then some .ts2
      else none := by
  simp [arrival, Event.opens, accepted, here]

/-- A header on timeslot 2 opens a call there with the counter's next byte. -/
theorem slot2Head_step {tr : Translator} (unstarted : Unstarted (tr.slot .ts2))
    (closed : (tr.slot .ts2).inCall.lc = none) (call : Nat) (now : Time) :
    let after := (Translator.step dmrCodec {} tr (arrival (slot2Head call) now)).1
    after.slot .ts1 = tr.slot .ts1 ∧ after.shared.inStreamCtr = tr.shared.inStreamCtr + 1 ∧
      streamByte after .ts2 = tr.shared.inStreamCtr + 1 ∧ HbpActive after .ts2 ∧
      Unstarted (after.slot .ts2) := by
  intro after
  have accepted : acceptedFrame true (slot2Head call) = _ :=
    slot2Frame_accepted hbpfSltVhead (by decide +kernel) call
  obtain ⟨here, head⟩ := slot2Fields_head slot2HeadPayload call
  obtain ⟨seen, unseen⟩ := arrival_atSlot accepted here now
  obtain ⟨opened, left⟩ := unstarted.head closed dmrCodec {} rfl .ts2 tr.shared head rtpDraw
    fun _ => now
  have opens : (arrival (slot2Head call) now).opens {} tr = some .ts2 := by
    rw [arrival_opens accepted here, if_pos opened]
  obtain ⟨counted, taken, -⟩ := Translator.step_opens dmrCodec opens
  have stepped := (Translator.step_seen dmrCodec {} tr seen).1
  refine ⟨(Translator.step_unseen dmrCodec {} tr unseen).1, counted, taken, ?_, ?_⟩
  · unfold HbpActive
    rw [stepped]
    exact (slotStep_opens dmrCodec .ts2 tr.shared opened).1
  · rw [stepped]
    exact left

/-- A terminator on timeslot 2 drops the call there. -/
theorem slot2Term_step {tr : Translator} (unstarted : Unstarted (tr.slot .ts2)) (call : Nat)
    (now : Time) :
    let after := (Translator.step dmrCodec {} tr (arrival (slot2Term call) now)).1
    after.slot .ts1 = tr.slot .ts1 ∧ after.shared.inStreamCtr = tr.shared.inStreamCtr ∧
      (after.slot .ts2).inCall.lc = none ∧ Unstarted (after.slot .ts2) := by
  intro after
  have accepted : acceptedFrame true (slot2Term call) = _ :=
    slot2Frame_accepted hbpfSltVterm (by decide +kernel) call
  obtain ⟨here, term⟩ := slot2Fields_term slot2TermPayload call
  obtain ⟨seen, unseen⟩ := arrival_atSlot accepted here now
  obtain ⟨opensNot, left, dropped⟩ := unstarted.term dmrCodec {} rfl .ts2 tr.shared term rtpDraw
    fun _ => now
  have opens : (arrival (slot2Term call) now).opens {} tr = none := by
    rw [arrival_opens accepted here, if_neg opensNot]
  have stepped := (Translator.step_seen dmrCodec {} tr seen).1
  refine ⟨(Translator.step_unseen dmrCodec {} tr unseen).1,
    (Translator.step_opensNot dmrCodec opens).1, ?_, ?_⟩
  · rw [stepped]
    exact dropped
  · rw [stepped]
    exact left

/-- The call on timeslot 1 is the first one, and so many calls have been opened on timeslot 2. -/
structure LongCall (calls : Nat) (tr : Translator) : Prop where
  first : HbpActive tr .ts1
  firstByte : streamByte tr .ts1 = 1
  second : HbpActive tr .ts2
  secondByte : streamByte tr .ts2 = advance 1 calls
  counter : tr.shared.inStreamCtr = advance 1 calls
  unstarted : Unstarted (tr.slot .ts2)

/-- A run over two callbacks is two steps. -/
theorem run_pair (dmr : DmrUtils) (cfg : Config) (tr : Translator) (first second : Event) :
    ((translator dmr cfg).run tr [first, second]).1 =
      (Translator.step dmr cfg (Translator.step dmr cfg tr first).1 second).1 := rfl

/-- The first call leaves timeslot 2 as it is. -/
theorem firstCall_untouched : ((Translator.step dmrCodec {} Translator.initial
    (arrival (masterHead dmrCodec [1, 2, 3, 4] [0, 0, 7] [0, 0, 1]) 100)).1.slot .ts2) = {} :=
  (Translator.step_unseen dmrCodec {} Translator.initial (by decide +kernel)).1

theorem longCall_twoCalls : LongCall 1 ((translator dmrCodec {}).run Translator.initial twoCalls).1 := by
  refine ⟨by decide +kernel, by decide +kernel, by decide +kernel, by decide +kernel,
    by decide +kernel, ?_⟩
  have unstarted : Unstarted {} := ⟨CallLock.openFor_initial .hbp, rfl⟩
  rw [← firstCall_untouched] at unstarted
  obtain ⟨-, -, -, -, left⟩ := slot2Head_step unstarted (by rw [firstCall_untouched]) 0 100
  rw [twoCalls, run_pair]
  exact left

/-- The next call on timeslot 2 takes the next byte. -/
theorem LongCall.next {calls : Nat} {tr : Translator} (long : LongCall calls tr) (call : Nat) :
    LongCall (calls + 1) ((translator dmrCodec {}).run tr (nextCall call)).1 := by
  obtain ⟨first, counted, closed, ended⟩ := slot2Term_step long.unstarted call (100 + (call + 1) / 100)
  obtain ⟨kept, taken, byte, active, left⟩ := slot2Head_step ended closed (call + 1)
    (100 + (call + 1) / 100)
  have counter : advance 1 calls + 1 = advance 1 (calls + 1) := advance_add 1 calls 1
  rw [first] at kept
  rw [counted, long.counter, counter] at taken byte
  rw [nextCall, run_pair]
  refine ⟨?_, ?_, active, byte, taken, left⟩
  · exact (congrArg (fun slot : Slot => slot.inCall.lc.isSome) kept).trans long.first
  · exact (congrArg (fun slot : Slot => slot.inCall.streamId) kept).trans long.firstByte

/-- While the call on timeslot 1 is active, 256 calls are opened on timeslot 2. -/
def wrappedCalls : List Event := twoCalls ++ (List.range 255).flatMap nextCall

theorem longCall_run (count : Nat) : LongCall (count + 1) ((translator dmrCodec {}).run
    Translator.initial (twoCalls ++ (List.range count).flatMap nextCall)).1 := by
  induction count with
  | zero => exact longCall_twoCalls
  | succ count ih =>
      have next := ih.next count
      rw [List.range_succ, List.flatMap_append, ← List.append_assoc, Mealy.run_append]
      simpa using next

/-- The counter has wrapped around, so that the two active calls have one stream byte. -/
theorem wrapped_streamBytes_equal :
    let after := ((translator dmrCodec {}).run Translator.initial wrappedCalls).1
    HbpActive after .ts1 ∧ HbpActive after .ts2 ∧ streamByte after .ts1 = streamByte after .ts2 := by
  have long := longCall_run 255
  exact ⟨long.first, long.second, long.firstByte.trans long.secondByte.symm⟩

end Ipsc2Hbp
