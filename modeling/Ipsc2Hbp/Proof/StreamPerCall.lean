import Ipsc2Hbp.Proof.GeneratedStreams
import Ipsc2Hbp.Proof.SessionStreams

namespace Ipsc2Hbp
open BigEndian

/-- The packet of a VOICE_HEAD that finds HBP connected and passes every test. -/
def SlotEvent.acceptedHead (cfg : Config) (slot : Slot) : SlotEvent → Option Bytes
  | .ipscVoice connected data burstType _ clock =>
      if connected = true ∧ burstType = voiceHead ∧
        (ipscGate cfg data burstType clock slot).1 = false then some data else none
  | _ => none

/-- Two packets of different calls differ in the stream byte and in the source or talkgroup. -/
def OtherCall (one two : Bytes) : Prop :=
  one[gvIpscSeqOff]? ≠ two[gvIpscSeqOff]? ∧
    (gvSrcSub one ≠ gvSrcSub two ∨ gvDstGroup one ≠ gvDstGroup two)

instance (one two : Bytes) : Decidable (OtherCall one two) :=
  inferInstanceAs (Decidable (_ ∧ (_ ∨ _)))

/-- A callback closes the open stream of a timeslot: an accepted VOICE_TERM, a timeout of the
silent call, or the loss of the peer or of the connection. -/
def Closes (cfg : Config) (slot : Slot) : SlotEvent → Prop
  | .ipscVoice connected data burstType _ clock =>
      connected = true ∧ burstType = voiceTerm ∧ (ipscGate cfg data burstType clock slot).1 = false
  | .checkCallTimeouts timeout clock => timeout < clock 0 - slot.outCall.lastPkt
  | .peerLost | .hbpDisconnected => True
  | .hbpFrame .. | .drain _ => False

/-- The frames that one callback sends to the master on the timeslot. -/
def framesAt (dmr : DmrUtils) (cfg : Config) (ts : Timeslot) (tr : Translator) (event : Event) :
    List HbpFrame :=
  (sentDmrd (slotActions ts (Translator.step dmr cfg tr event).2)).map HbpFrame.read

/-- Two accepted VOICE_HEADs of different calls on a timeslot of a run. -/
structure HeadPair (dmr : DmrUtils) (cfg : Config) (ts : Timeslot) (events : List Event) where
  before : List Event
  first : Event
  between : List Event
  second : Event
  after : List Event
  split : events = before ++ first :: (between ++ second :: after)
  one : Bytes
  two : Bytes
  firstHead : (first.atSlot ts).bind (SlotEvent.acceptedHead cfg
    (((translator dmr cfg).run Translator.initial before).1.slot ts)) = some one
  secondHead : (second.atSlot ts).bind (SlotEvent.acceptedHead cfg
    (((translator dmr cfg).run Translator.initial (before ++ first :: between)).1.slot ts)) = some two
  other : OtherCall one two

namespace HeadPair
variable {dmr : DmrUtils} {cfg : Config} {ts : Timeslot} {events : List Event}

/-- The state that the first header finds. -/
def firstState (pair : HeadPair dmr cfg ts events) : Translator :=
  ((translator dmr cfg).run Translator.initial pair.before).1

/-- The state that the first header leaves. -/
def openState (pair : HeadPair dmr cfg ts events) : Translator :=
  (Translator.step dmr cfg pair.firstState pair.first).1

/-- The state that the second header finds. -/
def secondState (pair : HeadPair dmr cfg ts events) : Translator :=
  ((translator dmr cfg).run Translator.initial (pair.before ++ pair.first :: pair.between)).1

/-- The frames of the two headers carry different stream IDs. -/
def StreamsDiffer (pair : HeadPair dmr cfg ts events) : Prop :=
  ∀ one ∈ framesAt dmr cfg ts pair.firstState pair.first,
    ∀ two ∈ framesAt dmr cfg ts pair.secondState pair.second, one.stream ≠ two.stream

instance (pair : HeadPair dmr cfg ts events) : Decidable pair.StreamsDiffer :=
  inferInstanceAs (Decidable (∀ one ∈ _, ∀ two ∈ _, _))

/-- Some callback between the two headers closes the stream. -/
def ClosedBetween (pair : HeadPair dmr cfg ts events) : Prop :=
  ∃ earlier event later, pair.between = earlier ++ event :: later ∧
    ∃ part ∈ event.atSlot ts,
      Closes cfg (((translator dmr cfg).run pair.openState earlier).1.slot ts) part

end HeadPair

/-- In the packet flow the gate keeps the stream. -/
theorem ipscGate_stream {cfg : Config} (packetFlow : cfg.legacyFlow = false) (data : Bytes)
    (burstType : UInt8) (clock : Clock) (slot : Slot) :
    (ipscGate cfg data burstType clock slot).2.outCall.streamId = slot.outCall.streamId := by
  have gate := ipscGate_cases cfg data burstType clock slot
  rw [legacyPrelude_packetFlow packetFlow] at gate
  generalize ipscGate cfg data burstType clock slot = passed at gate
  rcases passed with ⟨dropped, after⟩
  cases gate with
  | stale | blocked | suppressed | admitted => rfl

/-- A packet that is let in keeps an open stream unless it is a terminator. -/
theorem BurstOutcome.keeps_stream {dmr : DmrUtils} {cfg : Config} {ts : Timeslot} {data : Bytes}
    {burstType : UInt8} {urandom : StreamId} {now : Time} {seq : UInt8} {slot after : Slot}
    {actions : List Action} {streamId : Bytes}
    (outcome : BurstOutcome dmr cfg ts data burstType urandom now seq slot after actions)
    (opened : slot.outCall.streamId = some streamId) (notTerm : burstType ≠ voiceTerm) :
    after.outCall.streamId = some streamId := by
  cases outcome with
  | ignored | outOfRange | voiceSent => exact opened
  | headOpened head closed =>
      rw [closed] at opened
      cases opened
  | headRepeated current head current' => exact current'.symm.trans opened
  | ended current term => exact absurd term notTerm
  | enteredLate late | enteredSilent late =>
      rw [late.closed] at opened
      cases opened

/-- In the packet flow an open stream stays open until a callback closes it. -/
theorem slotStep_keeps_stream {dmr : DmrUtils} {cfg : Config} (packetFlow : cfg.legacyFlow = false)
    (ts : Timeslot) (shared : Shared) {slot : Slot} {part : SlotEvent} {streamId : Bytes}
    (opened : slot.outCall.streamId = some streamId) (still : ¬ Closes cfg slot part) :
    (slotStep dmr cfg ts shared slot part).2.1.outCall.streamId = some streamId := by
  cases part with
  | ipscVoice connected data burstType urandom clock =>
      cases connected with
      | false => exact opened
      | true =>
          have passed := (ipscGate_stream packetFlow data burstType clock slot).trans opened
          simp only [slotStep, ipscVoiceReceived_eq]
          split
          case isTrue => exact passed
          case isFalse accepted =>
            have notTerm : burstType ≠ voiceTerm := fun term =>
              still ⟨rfl, term, by simpa using accepted⟩
            exact (sendBurst_cases ..).keeps_stream passed notTerm
  | hbpFrame frame draw clock =>
      have same := (hbpFrameReceived_outbound dmr cfg frame draw clock shared slot).1
      exact (congrArg OutCall.streamId same).trans opened
  | drain clock =>
      have same := (drainHbpToIpscQueue_cases cfg clock slot).side.outCall
      exact (congrArg OutCall.streamId same).trans opened
  | checkCallTimeouts timeout clock =>
      have recent : ¬ timeout < clock 0 - slot.outCall.lastPkt := still
      have kept : checkOutTimeout cfg timeout (clock 0) (clock (timeoutReading ts)) slot = slot := by
        unfold checkOutTimeout
        rw [if_neg (by simp [recent])]
      simp only [slotStep, checkCallTimeouts, kept, checkInTimeout]
      split
      case isTrue => exact opened
      case isFalse => exact opened
  | peerLost | hbpDisconnected => exact absurd trivial still

/-- A terminator that is let in leaves no stream open. -/
theorem sendBurst_term_closes (dmr : DmrUtils) (cfg : Config) (ts : Timeslot) (data srcSub dstGroup : Bytes)
    (urandom : StreamId) (now : Time) (shared : Shared) (slot : Slot) :
    (sendBurst cfg ts srcSub dstGroup voiceTerm now shared
      (burstOf dmr cfg data srcSub dstGroup voiceTerm urandom slot)).2.1.outCall.streamId = none := by
  unfold burstOf termBurst
  rw [if_neg (by decide), if_pos rfl]
  cases opened : slot.outCall.streamId with
  | none => exact opened
  | some streamId =>
      simp only
      rw [sendBurst_frame opened, if_pos rfl]
      rfl

/-- A callback that closes leaves no stream open. -/
theorem slotStep_closes {dmr : DmrUtils} {cfg : Config} (ts : Timeslot) (shared : Shared)
    {slot : Slot} {part : SlotEvent} (closes : Closes cfg slot part) :
    (slotStep dmr cfg ts shared slot part).2.1.outCall.streamId = none := by
  cases part with
  | ipscVoice connected data burstType urandom clock =>
      obtain ⟨rfl, rfl, accepted⟩ := closes
      simp only [slotStep, ipscVoiceReceived_eq, accepted, Bool.false_eq_true, if_false]
      exact sendBurst_term_closes ..
  | hbpFrame | drain => exact closes.elim
  | checkCallTimeouts timeout clock =>
      have silent : timeout < clock 0 - slot.outCall.lastPkt := closes
      have closed : (checkOutTimeout cfg timeout (clock 0) (clock (timeoutReading ts))
          slot).outCall.streamId = none := by
        unfold checkOutTimeout
        cases opened : slot.outCall.streamId with
        | none => rwa [if_neg (by simp)]
        | some streamId => rw [if_pos (by simp [silent])]
      simp only [slotStep, checkCallTimeouts, checkInTimeout]
      split
      case isTrue => exact closed
      case isFalse => exact closed
  | peerLost | hbpDisconnected => rfl

/-- Every delivered step of a slot keeps the stream law. -/
theorem slotStep_streams (dmr : DmrUtils) (cfg : Config) (ts : Timeslot) (shared : Shared)
    {slot : Slot} (wide : slot.outCall.Wide) {part : SlotEvent} (delivered : part.Delivered) :
    StreamLaw slot (slotStep dmr cfg ts shared slot part).2.1
      (slotStep dmr cfg ts shared slot part).2.2 := by
  have nothing : ∀ action ∈ ([] : List Action), action.FromHbp dmr := by simp
  cases part with
  | ipscVoice connected data burstType urandom clock =>
      exact ipscVoiceReceived_streams dmr cfg connected delivered ts burstType urandom clock shared wide
  | hbpFrame frame draw clock => exact hbpFrameReceived_streams dmr cfg frame draw clock shared slot
  | drain clock => exact drainHbpToIpscQueue_streams dmr cfg clock slot
  | checkCallTimeouts timeout clock =>
      refine .silent nothing ?_
      rcases (checkCallTimeouts_frame cfg timeout clock ts slot).1 with same | closed
      · exact .inr (congrArg OutCall.streamId same)
      · exact .inl closed
  | peerLost | hbpDisconnected => exact .silent nothing (.inl rfl)

/-- In the packet flow an accepted header sends one frame, of the stream that it leaves open. -/
theorem slotStep_head (dmr : DmrUtils) {cfg : Config} (packetFlow : cfg.legacyFlow = false)
    (ts : Timeslot) (shared : Shared) {slot : Slot} (wide : slot.outCall.Wide) {part : SlotEvent}
    (delivered : part.Delivered) {data : Bytes} (head : part.acceptedHead cfg slot = some data) :
    ∃ dmrd, sentDmrd (slotStep dmr cfg ts shared slot part).2.2 = [dmrd] ∧
      (slotStep dmr cfg ts shared slot part).2.1.outCall.streamId =
        some (HbpFrame.read dmrd).stream := by
  cases part with
  | hbpFrame | drain | checkCallTimeouts | peerLost | hbpDisconnected => cases head
  | ipscVoice connected packet burstType urandom clock =>
      simp only [SlotEvent.acceptedHead, Option.ite_none_right_eq_some] at head
      obtain ⟨⟨rfl, rfl, accepted⟩, -⟩ := head
      have kept := ipscGate_stream packetFlow packet voiceHead clock slot
      have src := gvSrcSub_length delivered
      have dst := gvDstGroup_length delivered
      simp only [slotStep, ipscVoiceReceived_eq, accepted, Bool.false_eq_true, if_false]
      generalize (ipscGate cfg packet voiceHead clock slot).2 = passed at kept
      unfold burstOf headBurst
      rw [if_pos rfl]
      cases opened : passed.outCall.streamId with
      | none =>
          simp only
          rw [sendBurst_frame rfl, packetFlow]
          exact ⟨_, rfl, congrArg some (dmrdFrame_stream cfg _ src dst urandom.property _ _).symm⟩
      | some streamId =>
          have four := wide streamId (kept.symm.trans opened)
          simp only [packetFlow, Bool.false_eq_true, if_false]
          rw [sendBurst_frame rfl, packetFlow]
          exact ⟨_, rfl, congrArg some (dmrdFrame_stream cfg _ src dst four _ _).symm⟩

/-- The delivered callbacks of a run are delivered to the timeslot. -/
theorem slotMeets_delivered (dmr : DmrUtils) (cfg : Config) (ts : Timeslot) (tr : Translator)
    {events : List Event} (delivered : ∀ event ∈ events, event.Delivered) :
    SlotMeets dmr cfg ts (fun _ _ part => part.Delivered) tr events := by
  have any := slotMeets_of_forall dmr cfg ts (fun _ _ _ => True) (fun _ _ _ => trivial) tr events
  have met := any.and_events fun event member part seen => (delivered event member).atSlot seen
  exact met.imp fun _ _ _ both part seen => (both part seen).2

/-- A stream that is open after a run was open before it or was opened in it. -/
theorem run_opened_stream (dmr : DmrUtils) (cfg : Config) (ts : Timeslot) {tr : Translator}
    {events : List Event} (shared : tr.shared.Wide) (wide : (tr.slot ts).outCall.Wide)
    (delivered : ∀ event ∈ events, event.Delivered) :
    let result := (translator dmr cfg).run tr events
    (result.1.slot ts).outCall.Wide ∧ ∀ streamId, (result.1.slot ts).outCall.streamId = some streamId →
      (tr.slot ts).outCall.streamId = some streamId ∨
        streamId ∈ (openedStreams (slotActions ts result.2)).map Prod.fst := by
  refine slot_run_invariant dmr cfg ts (fun _ _ part => part.Delivered)
    (fun log slot => slot.outCall.Wide ∧ ∀ streamId, slot.outCall.streamId = some streamId →
      (tr.slot ts).outCall.streamId = some streamId ∨ streamId ∈ (openedStreams log).map Prod.fst)
    ?_ tr events shared (slotMeets_delivered dmr cfg ts tr delivered) ⟨wide, fun _ => .inl⟩
  intro log shared slot part _ _ sent kept
  have law := slotStep_streams dmr cfg ts shared kept.1 sent
  refine ⟨fun streamId current => ?_, fun streamId current => ?_⟩
  · rcases law.opened streamId current with before | ⟨four, -⟩
    · exact kept.1 streamId before
    · exact four
  · rw [openedStreams_append, List.map_append, List.mem_append]
    rcases law.opened streamId current with before | ⟨-, lc, opening⟩
    · exact (kept.2 streamId before).imp_right .inl
    · refine .inr (.inr (List.mem_map.mpr ⟨(streamId, lc), ?_, rfl⟩))
      exact List.mem_filterMap.mpr ⟨.openStream streamId lc, opening, rfl⟩

/-- No stream is open at first. -/
theorem initial_outCall_wide (ts : Timeslot) : (Translator.initial.slot ts).outCall.Wide := by
  intro streamId current
  cases current

/-- With distinct stream IDs a stream that is opened after another was closed is another stream. -/
theorem streams_reopened (dmr : DmrUtils) (cfg : Config) (ts : Timeslot)
    {front middle back rest : List Event} {one two : Bytes}
    (delivered : ∀ event ∈ front ++ (middle ++ (back ++ rest)), event.Delivered)
    (fresh : FreshStreams (slotActions ts
      ((translator dmr cfg).run Translator.initial (front ++ (middle ++ (back ++ rest)))).2))
    (opened : (((translator dmr cfg).run Translator.initial front).1.slot ts).outCall.streamId =
      some one)
    (closed : (((translator dmr cfg).run
      ((translator dmr cfg).run Translator.initial front).1 middle).1.slot ts).outCall.streamId = none)
    (reopened : (((translator dmr cfg).run ((translator dmr cfg).run
      ((translator dmr cfg).run Translator.initial front).1 middle).1 back).1.slot
        ts).outCall.streamId = some two) : one ≠ two := by
  simp only [List.forall_mem_append] at delivered
  obtain ⟨sentFront, sentMiddle, sentBack, -⟩ := delivered
  have initialShared := Translator.initial_wide
  have frontShared := translator_run_wide dmr cfg _ front initialShared
  have middleShared := translator_run_wide dmr cfg _ middle frontShared
  have inFront := run_opened_stream dmr cfg ts initialShared (initial_outCall_wide ts) sentFront
  have inMiddle := run_opened_stream dmr cfg ts frontShared inFront.1 sentMiddle
  have inBack := run_opened_stream dmr cfg ts middleShared inMiddle.1 sentBack
  have early := (inFront.2 one opened).resolve_left (fun none => by cases none)
  have late := (inBack.2 two reopened).resolve_left (fun none => by rw [closed] at none; cases none)
  simp only [Mealy.run_append, slotActions_append, FreshStreams, openedStreams_append,
    List.map_append] at fresh
  intro same
  have apart := (List.nodup_append.mp fresh).2.2 one early two
  exact apart (List.mem_append_right _ (List.mem_append_left _ late)) same

/-- An open stream stays open through a run in which no callback closes it. -/
theorem run_keeps_stream {dmr : DmrUtils} {cfg : Config} (packetFlow : cfg.legacyFlow = false)
    (ts : Timeslot) {tr : Translator} {events : List Event} {streamId : Bytes}
    (shared : tr.shared.Wide) (opened : (tr.slot ts).outCall.streamId = some streamId)
    (still : SlotMeets dmr cfg ts (fun _ slot part => ¬ Closes cfg slot part) tr events) :
    (((translator dmr cfg).run tr events).1.slot ts).outCall.streamId = some streamId :=
  slot_run_invariant dmr cfg ts _ (fun _ slot => slot.outCall.streamId = some streamId)
    (fun _ shared _ _ _ _ unclosed current =>
      slotStep_keeps_stream packetFlow ts shared current unclosed) tr events shared still opened

/-- An accepted header sends one frame, of the stream that it leaves open. -/
theorem framesAt_head (dmr : DmrUtils) {cfg : Config} (packetFlow : cfg.legacyFlow = false)
    {ts : Timeslot} {tr : Translator} (wide : (tr.slot ts).outCall.Wide) {event : Event}
    (delivered : event.Delivered) {data : Bytes}
    (head : (event.atSlot ts).bind (SlotEvent.acceptedHead cfg (tr.slot ts)) = some data) :
    ∃ frame, framesAt dmr cfg ts tr event = [frame] ∧
      ((Translator.step dmr cfg tr event).1.slot ts).outCall.streamId = some frame.stream := by
  obtain ⟨part, seen, accepted⟩ := Option.bind_eq_some_iff.mp head
  obtain ⟨state, actions⟩ := Translator.step_seen dmr cfg tr seen
  obtain ⟨dmrd, sent, stream⟩ := slotStep_head dmr packetFlow ts tr.shared wide
    (delivered.atSlot seen) accepted
  refine ⟨HbpFrame.read dmrd, ?_, ?_⟩
  · rw [framesAt, actions, sent, List.map_singleton]
  · rw [state, stream]

/-- An accepted header does not close the stream. -/
theorem SlotEvent.acceptedHead_still {cfg : Config} {slot : Slot} {part : SlotEvent} {data : Bytes}
    (head : part.acceptedHead cfg slot = some data) : ¬ Closes cfg slot part := by
  cases part with
  | hbpFrame | drain | checkCallTimeouts | peerLost | hbpDisconnected => cases head
  | ipscVoice connected packet burstType urandom clock =>
      simp only [acceptedHead, Option.ite_none_right_eq_some] at head
      rintro ⟨-, term, -⟩
      rw [head.1.2.1] at term
      exact absurd term (by decide)

namespace HeadPair
variable {dmr : DmrUtils} {cfg : Config} {ts : Timeslot} {events : List Event}

theorem secondState_eq (pair : HeadPair dmr cfg ts events) :
    pair.secondState = ((translator dmr cfg).run pair.openState pair.between).1 := by
  rw [secondState, Mealy.run_append, Mealy.run_cons]
  rfl

/-- Without a closing callback in between, the second header goes on with the stream of the first. -/
theorem same_stream (packetFlow : cfg.legacyFlow = false) (pair : HeadPair dmr cfg ts events)
    (unclosed : ¬ pair.ClosedBetween) {streamId : Bytes}
    (opened : (pair.openState.slot ts).outCall.streamId = some streamId) :
    ((Translator.step dmr cfg pair.secondState pair.second).1.slot ts).outCall.streamId =
      some streamId := by
  have shared : pair.openState.shared.Wide := Translator.step_wide dmr cfg _ _
    (translator_run_wide dmr cfg _ _ Translator.initial_wide)
  have still : SlotMeets dmr cfg ts (fun _ slot part => ¬ Closes cfg slot part) pair.openState
      pair.between := by
    refine Mealy.meets_of_split _ _ _ _ _ fun earlier event later split part seen closes => ?_
    exact unclosed ⟨earlier, event, later, split, part, seen, closes⟩
  have found := run_keeps_stream packetFlow ts shared opened still
  rw [← pair.secondState_eq] at found
  obtain ⟨part, seen, accepted⟩ := Option.bind_eq_some_iff.mp pair.secondHead
  rw [(Translator.step_seen dmr cfg pair.secondState seen).1]
  exact slotStep_keeps_stream packetFlow ts _ found (SlotEvent.acceptedHead_still accepted)

/-- With a closing callback in between, the second header goes on with a stream that was opened
after the first header's stream was closed. -/
theorem other_stream (pair : HeadPair dmr cfg ts events)
    (delivered : ∀ event ∈ events, event.Delivered)
    (fresh : FreshStreams (slotActions ts ((translator dmr cfg).run Translator.initial events).2))
    (closed : pair.ClosedBetween) {one two : Bytes}
    (opened : (pair.openState.slot ts).outCall.streamId = some one)
    (reopened : ((Translator.step dmr cfg pair.secondState pair.second).1.slot ts).outCall.streamId =
      some two) : one ≠ two := by
  obtain ⟨earlier, event, later, split, part, seen, closes⟩ := closed
  have whole : events = (pair.before ++ [pair.first]) ++
      ((earlier ++ [event]) ++ ((later ++ [pair.second]) ++ pair.after)) := by
    refine pair.split.trans ?_
    rw [split]
    simp only [List.append_assoc, List.cons_append, List.nil_append]
  have opening : ((translator dmr cfg).run Translator.initial (pair.before ++ [pair.first])).1 =
      pair.openState := by
    rw [Mealy.run_append]
    rfl
  have ending : (((translator dmr cfg).run pair.openState (earlier ++ [event])).1.slot
      ts).outCall.streamId = none := by
    have step := Translator.step_seen dmr cfg ((translator dmr cfg).run pair.openState earlier).1 seen
    rw [Mealy.run_append]
    exact (congrArg (·.outCall.streamId) step.1).trans (slotStep_closes ts _ closes)
  have closing : ((translator dmr cfg).run
      ((translator dmr cfg).run pair.openState (earlier ++ [event])).1 (later ++ [pair.second])).1 =
        (Translator.step dmr cfg pair.secondState pair.second).1 := by
    rw [pair.secondState_eq, split, Mealy.run_append _ _ later]
    simp only [Mealy.run_append, Mealy.run_cons, Mealy.run_nil]
    rfl
  refine streams_reopened dmr cfg ts (whole ▸ delivered) (whole ▸ fresh) ?_ ?_ ?_
  · rwa [opening]
  · rwa [opening]
  · rwa [opening, closing]

end HeadPair

/-- For every run of delivered packets in the packet flow with distinct fresh stream IDs, the frames
of two accepted headers of different calls carry different stream IDs exactly when a callback
between the two headers closes the first call. -/
theorem calls_apart_iff_closed (dmr : DmrUtils) (cfg : Config) (packetFlow : cfg.legacyFlow = false)
    (ts : Timeslot) (events : List Event) (delivered : ∀ event ∈ events, event.Delivered)
    (fresh : FreshStreams (slotActions ts ((translator dmr cfg).run Translator.initial events).2))
    (pair : HeadPair dmr cfg ts events) : pair.StreamsDiffer ↔ pair.ClosedBetween := by
  have sent := delivered
  rw [pair.split] at sent
  simp only [List.forall_mem_append, List.forall_mem_cons] at sent
  obtain ⟨sentBefore, sentFirst, sentBetween, sentSecond, -⟩ := sent
  have wideFirst := (run_opened_stream dmr cfg ts Translator.initial_wide
    (initial_outCall_wide ts) sentBefore).1
  have wideSecond := (run_opened_stream dmr cfg ts Translator.initial_wide
    (initial_outCall_wide ts) (List.forall_mem_append.mpr ⟨sentBefore,
      List.forall_mem_cons.mpr ⟨sentFirst, sentBetween⟩⟩)).1
  obtain ⟨one, framesOne, opened⟩ := framesAt_head dmr packetFlow wideFirst sentFirst
    pair.firstHead
  obtain ⟨two, framesTwo, reopened⟩ := framesAt_head dmr packetFlow wideSecond sentSecond
    pair.secondHead
  have differ : pair.StreamsDiffer ↔ one.stream ≠ two.stream := by
    unfold HeadPair.StreamsDiffer HeadPair.firstState HeadPair.secondState
    rw [framesOne, framesTwo]
    simp only [List.forall_mem_singleton]
  rw [differ]
  constructor
  · intro apart
    by_contra unclosed
    have same := pair.same_stream packetFlow unclosed opened
    exact apart (Option.some.inj (same.symm.trans reopened))
  · intro closed
    exact pair.other_stream delivered fresh closed opened reopened

/-- The header of a first call. -/
def firstHeader : Event :=
  .ipscVoice true (peerHead dmrCodec 5 [0, 0, 9] [0, 0, 1]) .ts1 voiceHead firstDraw
    fun _ => 100

/-- The header of a second call, from another source to another talkgroup. -/
def secondHeader : Event :=
  .ipscVoice true (peerHead dmrCodec 6 [0, 0, 8] [0, 0, 2]) .ts1 voiceHead secondDraw
    fun _ => 102

/-- The terminator of the first call. -/
def firstTerminator : Event :=
  .ipscVoice true (peerTerm dmrCodec 5 [0, 0, 9] [0, 0, 1]) .ts1 voiceTerm secondDraw
    fun _ => 101

/-- The two headers with the first call's terminator in between. -/
def endedPair : HeadPair dmrCodec {} .ts1 [firstHeader, firstTerminator, secondHeader] where
  before := []
  first := firstHeader
  between := [firstTerminator]
  second := secondHeader
  after := []
  split := rfl
  one := peerHead dmrCodec 5 [0, 0, 9] [0, 0, 1]
  two := peerHead dmrCodec 6 [0, 0, 8] [0, 0, 2]
  firstHead := by decide +kernel
  secondHead := by decide +kernel
  other := by decide +kernel

/-- A call that is ended and the next call have streams of their own. -/
theorem calls_apart_iff_closed_ended : endedPair.StreamsDiffer := by
  have law := calls_apart_iff_closed dmrCodec {} rfl .ts1 [firstHeader, firstTerminator, secondHeader]
    (by decide +kernel) (by decide +kernel) endedPair
  exact law.mpr ⟨[], firstTerminator, [], rfl, _, rfl, rfl, rfl, by decide +kernel⟩

/-- The two headers when the first call's terminator is lost. -/
def lostPair : HeadPair dmrCodec {} .ts1 [firstHeader, secondHeader] where
  before := []
  first := firstHeader
  between := []
  second := secondHeader
  after := []
  split := rfl
  one := peerHead dmrCodec 5 [0, 0, 9] [0, 0, 1]
  two := peerHead dmrCodec 6 [0, 0, 8] [0, 0, 2]
  firstHead := by decide +kernel
  secondHead := by decide +kernel
  other := by decide +kernel

/-- The second call then goes on with the stream of the first. -/
theorem calls_share_stream_lostTerminator :
    let log := slotActions .ts1
      ((translator dmrCodec {}).run Translator.initial [firstHeader, secondHeader]).2
    (∀ event ∈ [firstHeader, secondHeader], event.Delivered) ∧ FreshStreams log ∧
      (framesAt dmrCodec {} .ts1 lostPair.firstState lostPair.first).map HbpFrame.stream =
        [[1, 2, 3, 4]] ∧
      (framesAt dmrCodec {} .ts1 lostPair.secondState lostPair.second).map HbpFrame.stream =
        [[1, 2, 3, 4]] ∧
      ¬ lostPair.StreamsDiffer := by
  decide +kernel

end Ipsc2Hbp
