import Ipsc2Hbp.Proof.CallOpenings
import Ipsc2Hbp.Proof.GeneratedCalls
import Ipsc2Hbp.Proof.RejectedCalls

namespace Ipsc2Hbp
open BigEndian

/-- The VOICE_TERM packets that a log passes to `_send_hbp_to_ipsc`. -/
def generatedTerms (log : List Action) : List QueueEntry :=
  (generatedEntries log).filter fun entry => entry.burstType = voiceTerm

/-- The inbound call of a timeslot goes on with the same fields. -/
structure InCall.SameCall (after before : InCall) : Prop where
  lc : after.lc = before.lc
  hbpStream : after.hbpStream = before.hbpStream
  streamId : after.streamId = before.streamId
  started : after.started = before.started

/-- The frame of a callback that the call lock of the timeslot lets in. -/
def frameIn (cfg : Config) (ts : Timeslot) (tr : Translator) (event : Event) : Option HbpFrame :=
  (event.atSlot ts).bind (SlotEvent.letIn cfg (tr.slot ts))

/-- The lock rejects a callback exactly when it rejects its part on the timeslot. -/
theorem rejected_iff {cfg : Config} {ts : Timeslot} {tr : Translator} {event : Event}
    {part : SlotEvent} (seen : event.atSlot ts = some part) :
    Rejected cfg ts tr event ↔ part.Rejected cfg (tr.slot ts) := by
  constructor
  · rintro ⟨other, member, rejected⟩
    obtain rfl := Option.some.inj (seen.symm.trans member)
    exact rejected
  · exact fun rejected => ⟨part, seen, rejected⟩

/-- The terminator of a call that is let in and not dropped leaves no call. -/
theorem HbpOutcome.term_closes {dmr : DmrUtils} {cfg : Config} {frame : HbpFrame} {draw : RtpDraw}
    {clock : Clock} {shared : Shared} {slot : Slot} {result : Shared × Slot × List Action}
    (outcome : HbpOutcome dmr cfg frame draw clock shared slot result) (term : frame.isTerm = true)
    (kept : legacyHbpStreamDrop cfg frame slot = false) :
    result.2.1.inCall.lc = none ∧ result.2.1.inCall.started = false ∧
      (slot.inCall.started = true → (generatedTerms result.2.2).length = 1) := by
  cases outcome with
  | foreignTerm dropped => exact absurd (kept.symm.trans dropped) Bool.false_ne_true
  | headMerged head | headOpened opened head | headStarted opened head =>
      exact absurd ((HbpFrame.isTerm_of_isHead head).symm.trans term) Bool.false_ne_true
  | endedSilent ended unstarted =>
      refine ⟨rfl, rfl, fun started => ?_⟩
      exact absurd (unstarted.symm.trans started) Bool.false_ne_true
  | ended =>
      refine ⟨rfl, rfl, fun _ => ?_⟩
      unfold generatedTerms sendHbpTerm
      rw [generatePacket_entries]
      rfl
  | voiceIgnored notHead notTerm | voiceContinued notHead notTerm
  | voiceOpened opened notHead notTerm =>
      exact absurd (notTerm.symm.trans term) Bool.false_ne_true

/-- A terminator that the legacy flow drops changes at most the lock and the time of the last frame. -/
theorem slotStep_foreignTerm (dmr : DmrUtils) {cfg : Config} (ts : Timeslot) (shared : Shared)
    {slot : Slot} {frame : HbpFrame} {draw : RtpDraw} {clock : Clock}
    (dropped : legacyHbpStreamDrop cfg frame slot = true) :
    ∃ lock, slotStep dmr cfg ts shared slot (.hbpFrame frame draw clock) =
      (shared, { slot with inCall.lastPkt := clock 0, lock := lock }, []) := by
  obtain ⟨blocked, lock, -, -, received⟩ :=
    hbpFrameReceived_decided dmr cfg frame draw clock shared slot
  refine ⟨lock, received.trans ?_⟩
  cases blocked with
  | true => rfl
  | false =>
      have same : legacyHbpStreamDrop cfg frame { slot with inCall.lastPkt := clock 0, lock := lock } =
          legacyHbpStreamDrop cfg frame slot := rfl
      unfold hbpAdmitted
      rw [same, dropped]
      rfl

/-- An active call meets a terminator of another stream: nothing is generated and the call goes on
exactly in the legacy flow or when the call lock rejects the terminator. -/
theorem foreign_terminator_ignored_iff (dmr : DmrUtils) (cfg : Config) {ts : Timeslot}
    (tr : Translator) {event : Event} {frame : HbpFrame} {draw : RtpDraw} {clock : Clock}
    (arrives : event.atSlot ts = some (.hbpFrame frame draw clock)) (term : frame.isTerm = true)
    {stream : Bytes} (active : (tr.slot ts).inCall.lc.isSome = true)
    (mapped : (tr.slot ts).inCall.hbpStream = some stream) (foreign : frame.stream ≠ stream) :
    let result := Translator.step dmr cfg tr event
    (generatedTerms (slotActions ts result.2) = [] ∧
        (result.1.slot ts).inCall.SameCall (tr.slot ts).inCall) ↔
      cfg.legacyFlow = true ∨ Rejected cfg ts tr event := by
  intro result
  obtain ⟨state, actions⟩ := Translator.step_seen dmr cfg tr arrives
  rw [show result.1.slot ts = _ from state, show slotActions ts result.2 = _ from actions,
    rejected_iff arrives]
  constructor
  · rintro ⟨-, same⟩
    by_contra neither
    obtain ⟨flow, letIn⟩ := not_or.mp neither
    rw [← SlotEvent.letIn_hbpFrame_iff] at letIn
    obtain ⟨lock, outcome⟩ := SlotEvent.letIn_outcome letIn dmr ts tr.shared
    have kept : legacyHbpStreamDrop cfg frame
        { tr.slot ts with inCall.lastPkt := clock 0, lock := lock } = false := by
      rw [Bool.eq_false_iff, ne_eq, legacyHbpStreamDrop_iff]
      exact fun dropped => flow dropped.1
    have gone := (outcome.term_closes term kept).1
    rw [same.lc] at gone
    exact absurd gone (Option.isSome_iff_ne_none.mp active)
  · rintro (legacy | rejected)
    · have dropped : legacyHbpStreamDrop cfg frame (tr.slot ts) = true := by
        rw [legacyHbpStreamDrop_iff, mapped]
        refine ⟨legacy, term, rfl, fun same => foreign (Option.some.inj same).symm, ?_⟩
        unfold directionActive
        rw [active]
        rfl
      obtain ⟨lock, left⟩ := slotStep_foreignTerm dmr ts tr.shared dropped
      rw [left]
      exact ⟨rfl, rfl, rfl, rfl, rfl⟩
    · obtain ⟨lock, left⟩ := rejected.slotStep_eq dmr ts tr.shared
      rw [left]
      exact ⟨rfl, rfl, rfl, rfl, rfl⟩

/-- A master's call that has started on timeslot 1. -/
def startedCall : List Event :=
  masterFirst ++
    [.hbpVoice true (masterVoice dmrCodec [1, 1, 1, 1] [0, 0, 7] [0, 0, 2] hbpfFrametypeVoicesync)
      rtpDraw fun _ => 100]

/-- The terminator of another stream. -/
def staleTerminator : Event :=
  .hbpVoice true (masterTerm dmrCodec [2, 2, 2, 2] [0, 0, 7] [0, 0, 2]) rtpDraw fun _ => 100

/-- The legacy flow ignores it. -/
theorem foreign_terminator_ignored_iff_legacy :
    let state := ((translator dmrCodec legacyDefaults).run Translator.initial startedCall).1
    let result := Translator.step dmrCodec legacyDefaults state staleTerminator
    generatedTerms (slotActions .ts1 result.2) = [] ∧
      (result.1.slot .ts1).inCall.SameCall (state.slot .ts1).inCall := by
  intro state result
  have arrives : ∃ frame draw clock, staleTerminator.atSlot .ts1 = some (.hbpFrame frame draw clock) ∧
      frame.isTerm = true ∧ frame.stream ≠ [1, 1, 1, 1] :=
    ⟨_, _, _, rfl, by decide +kernel, by decide +kernel⟩
  obtain ⟨frame, draw, clock, arrives, term, foreign⟩ := arrives
  have active : (state.slot .ts1).inCall.lc.isSome = true := by decide +kernel
  have mapped : (state.slot .ts1).inCall.hbpStream = some [1, 1, 1, 1] := by decide +kernel
  apply (foreign_terminator_ignored_iff dmrCodec legacyDefaults state arrives term active mapped
    foreign).mpr
  exact .inl rfl

/-- In the packet flow it ends the call with a VOICE_TERM. -/
theorem foreign_terminator_ends_call :
    let state := ((translator dmrCodec {}).run Translator.initial startedCall).1
    let result := Translator.step dmrCodec {} state staleTerminator
    (state.slot .ts1).inCall.lc.isSome = true ∧
      (state.slot .ts1).inCall.hbpStream = some [1, 1, 1, 1] ∧
      generatedTerms (slotActions .ts1 result.2) ≠ [] ∧
      ¬ (result.1.slot .ts1).inCall.SameCall (state.slot .ts1).inCall := by
  intro state result
  have active : (state.slot .ts1).inCall.lc.isSome = true := by decide +kernel
  have gone : (result.1.slot .ts1).inCall.lc = none := by decide +kernel
  refine ⟨active, by decide +kernel, by decide +kernel, fun same => ?_⟩
  rw [← same.lc, gone] at active
  cases active

/-- A header of the stream is let in that opens a call or finds the call under its own stream. -/
def SlotEvent.OwnHeader (cfg : Config) (stream : Bytes) (slot : Slot) (part : SlotEvent) : Prop :=
  ∃ frame ∈ part.letIn cfg slot, frame.isHead = true ∧ frame.stream = stream ∧
    (part.Opens cfg slot ∨ slot.inCall.hbpStream = some stream)

/-- The headers that are let in are all of the stream. -/
def SlotEvent.OnlyHeaders (cfg : Config) (stream : Bytes) (slot : Slot) (part : SlotEvent) : Prop :=
  ∀ frame ∈ part.letIn cfg slot, frame.isHead = true → frame.stream = stream

instance (cfg : Config) (stream : Bytes) (slot : Slot) (part : SlotEvent) :
    Decidable (part.OnlyHeaders cfg stream slot) :=
  inferInstanceAs (Decidable (∀ frame ∈ part.letIn cfg slot, frame.isHead = true → _))

/-- The open call has the stream exactly when a header of the stream has made it so. -/
def OwnedWhen (stream : Bytes) (seen : Prop) (slot : Slot) : Prop :=
  slot.inCall.lc.isSome = true → (slot.inCall.hbpStream = some stream ↔ seen)

/-- In the legacy flow only headers open calls. -/
theorem SlotEvent.Opens.legacy_head {cfg : Config} (legacy : cfg.legacyFlow = true) {slot : Slot}
    {part : SlotEvent} (opens : part.Opens cfg slot) :
    ∃ frame draw clock, part = .hbpFrame frame draw clock ∧ part.letIn cfg slot = some frame ∧
      frame.isHead = true := by
  cases part with
  | hbpFrame frame draw clock =>
      obtain ⟨letIn, ⟨head, -⟩ | ⟨-, -, -, flow⟩⟩ := opens
      · exact ⟨frame, draw, clock, rfl, letIn, head⟩
      · exact absurd (flow.symm.trans legacy) Bool.false_ne_true
  | ipscVoice | drain | checkCallTimeouts | peerLost | hbpDisconnected => cases opens

/-- A header that opens a call owns it from then on. -/
theorem OwnedWhen.opened (dmr : DmrUtils) {cfg : Config} (legacy : cfg.legacyFlow = true)
    (ts : Timeslot) {stream : Bytes} (shared : Shared) {slot : Slot} {part : SlotEvent} (seen : Prop)
    (only : part.OnlyHeaders cfg stream slot) (opens : part.Opens cfg slot) :
    OwnedWhen stream (seen ∨ part.OwnHeader cfg stream slot)
      (slotStep dmr cfg ts shared slot part).2.1 := by
  obtain ⟨frame, draw, clock, rfl, letIn, head⟩ := opens.legacy_head legacy
  have own : frame.stream = stream := only frame letIn head
  intro _
  apply iff_of_true
  · rw [(slotStep_opens dmr ts shared opens).2.1, own]
  · exact .inr ⟨frame, letIn, head, own, .inl opens⟩

/-- Every step of the legacy flow keeps who owns the open call. -/
theorem OwnedWhen.slotStep (dmr : DmrUtils) {cfg : Config} (legacy : cfg.legacyFlow = true)
    (ts : Timeslot) {stream : Bytes} (shared : Shared) {slot : Slot} {part : SlotEvent} {seen : Prop}
    (only : part.OnlyHeaders cfg stream slot) (owned : OwnedWhen stream seen slot) :
    OwnedWhen stream (seen ∨ part.OwnHeader cfg stream slot)
      (slotStep dmr cfg ts shared slot part).2.1 := by
  by_cases opens : part.Opens cfg slot
  · exact OwnedWhen.opened dmr legacy ts shared seen only opens
  · obtain ⟨-, gone | ⟨goes, same⟩⟩ := slotStep_keptOrOver dmr ts shared opens
    · intro active
      exact absurd gone (Option.isSome_iff_ne_none.mp active)
    · intro active
      have before := owned (goes.symm.trans active)
      rw [same]
      constructor
      · exact fun mapped => .inl (before.mp mapped)
      · rintro (known | ⟨frame, -, -, -, opened | mapped⟩)
        · exact before.mpr known
        · exact absurd opened opens
        · exact mapped

/-- A header of the stream that is let in decides who owns the open call. -/
theorem OwnedWhen.head (dmr : DmrUtils) {cfg : Config} (legacy : cfg.legacyFlow = true)
    (ts : Timeslot) {stream : Bytes} (shared : Shared) {slot : Slot} {part : SlotEvent}
    {frame : HbpFrame} (letIn : part.letIn cfg slot = some frame) (head : frame.isHead = true)
    (own : frame.stream = stream) :
    OwnedWhen stream (part.OwnHeader cfg stream slot)
      (Ipsc2Hbp.slotStep dmr cfg ts shared slot part).2.1 := by
  by_cases opens : part.Opens cfg slot
  · have only : part.OnlyHeaders cfg stream slot := by
      intro other member _
      obtain rfl := Option.some.inj (letIn.symm.trans member)
      exact own
    simpa using OwnedWhen.opened dmr legacy ts shared False only opens
  · obtain ⟨-, gone | ⟨-, same⟩⟩ := slotStep_keptOrOver dmr ts shared opens
    · intro active
      exact absurd gone (Option.isSome_iff_ne_none.mp active)
    · intro _
      rw [same]
      constructor
      · exact fun mapped => ⟨frame, letIn, head, own, .inr mapped⟩
      · rintro ⟨other, -, -, -, opened | mapped⟩
        · exact absurd opened opens
        · exact mapped

/-- The callback ends the call of the timeslot, with one VOICE_TERM if the call had started. -/
structure EndsCall (dmr : DmrUtils) (cfg : Config) (ts : Timeslot) (tr : Translator) (event : Event) :
    Prop where
  lc : ((Translator.step dmr cfg tr event).1.slot ts).inCall.lc = none
  started : ((Translator.step dmr cfg tr event).1.slot ts).inCall.started = false
  term : (tr.slot ts).inCall.started = true →
    (generatedTerms (slotActions ts (Translator.step dmr cfg tr event).2)).length = 1

/-- In the legacy flow a terminator that is let in ends the open call exactly when it has the
call's stream. -/
theorem endsCall_iff (dmr : DmrUtils) {cfg : Config} (legacy : cfg.legacyFlow = true)
    {ts : Timeslot} {tr : Translator} (coherent : (tr.slot ts).inCall.Coherent dmr) {event : Event}
    {frame : HbpFrame} (accepted : frameIn cfg ts tr event = some frame)
    (term : frame.isTerm = true) (active : (tr.slot ts).inCall.lc.isSome = true) :
    EndsCall dmr cfg ts tr event ↔ (tr.slot ts).inCall.hbpStream = some frame.stream := by
  obtain ⟨part, seen, letIn⟩ := Option.bind_eq_some_iff.mp accepted
  obtain ⟨draw, clock, rfl⟩ := SlotEvent.letIn_eq letIn
  obtain ⟨state, actions⟩ := Translator.step_seen dmr cfg tr seen
  constructor
  · intro ends
    by_contra foreign
    have dropped : legacyHbpStreamDrop cfg frame (tr.slot ts) = true := by
      rw [legacyHbpStreamDrop_iff]
      refine ⟨legacy, term, coherent.hbpStream.trans active, foreign, ?_⟩
      unfold directionActive
      rw [active]
      rfl
    obtain ⟨lock, left⟩ := slotStep_foreignTerm dmr ts tr.shared dropped
    have gone := ends.lc
    rw [state, left] at gone
    exact absurd gone (Option.isSome_iff_ne_none.mp active)
  · intro mapped
    obtain ⟨lock, outcome⟩ := SlotEvent.letIn_outcome letIn dmr ts tr.shared
    have kept : legacyHbpStreamDrop cfg frame
        { tr.slot ts with inCall.lastPkt := clock 0, lock := lock } = false := by
      rw [Bool.eq_false_iff, ne_eq, legacyHbpStreamDrop_iff]
      exact fun dropped => dropped.2.2.2.1 mapped
    obtain ⟨lc, started, terms⟩ := outcome.term_closes term kept
    constructor
    · rwa [state]
    · rwa [state]
    · rwa [actions]

/-- In the legacy flow a header of a stream is let in, no header of another stream is let in after
it, and a call is open: a terminator of the stream that is let in ends the call exactly when one of
the stream's headers opened a call or found the call under its own stream. -/
theorem own_terminator_ends_iff (dmr : DmrUtils) {cfg : Config} (legacy : cfg.legacyFlow = true)
    (ts : Timeslot) (before : List Event) {head : Event} (middle : List Event) {term : Event}
    {stream : Bytes} :
    let start := ((translator dmr cfg).run Translator.initial before).1
    let state := ((translator dmr cfg).run Translator.initial (before ++ head :: middle)).1
    (∃ frame ∈ frameIn cfg ts start head, frame.isHead = true ∧ frame.stream = stream) →
    SlotMeets dmr cfg ts (fun _ slot part => part.OnlyHeaders cfg stream slot)
      (Translator.step dmr cfg start head).1 middle →
    (state.slot ts).inCall.lc.isSome = true →
    (∃ frame ∈ frameIn cfg ts state term, frame.isTerm = true ∧ frame.stream = stream) →
    (EndsCall dmr cfg ts state term ↔
      SlotOccurs dmr cfg ts (fun slot part => part.OwnHeader cfg stream slot) start
        (head :: middle)) := by
  intro start state headIn alone active termIn
  obtain ⟨frame, accepted, isHead, own⟩ := headIn
  obtain ⟨part, seen, letIn⟩ := Option.bind_eq_some_iff.mp accepted
  have first : OwnedWhen stream (part.OwnHeader cfg stream (start.slot ts))
      ((Translator.step dmr cfg start head).1.slot ts) := by
    rw [(Translator.step_seen dmr cfg start seen).1]
    exact OwnedWhen.head dmr legacy ts start.shared letIn isHead own
  have owned := slot_run_occurs dmr cfg ts _ (fun slot part => part.OwnHeader cfg stream slot)
    (OwnedWhen stream)
    (fun shared slot part _ only owned => owned.slotStep dmr legacy ts shared only)
    (Translator.step dmr cfg start head).1 middle alone _ first
  have reached : state = ((translator dmr cfg).run (Translator.step dmr cfg start head).1 middle).1 := by
    change ((translator dmr cfg).run Translator.initial (before ++ head :: middle)).1 = _
    rw [Mealy.run_append, Mealy.run_cons]
    rfl
  obtain ⟨last, taken, isTerm, same⟩ := termIn
  rw [endsCall_iff dmr legacy (slot_coherent cfg _ ts).inCall taken isTerm active, same]
  rw [← reached] at owned
  rw [owned active]
  unfold SlotOccurs
  rw [Mealy.occurs_cons]
  apply or_congr_left
  constructor
  · exact fun ownHeader => ⟨part, seen, ownHeader⟩
  · rintro ⟨other, member, ownHeader⟩
    obtain rfl := Option.some.inj (seen.symm.trans member)
    exact ownHeader

/-- The header of stream 2 repeats the source and talkgroup of stream 1 a second later. -/
def repeatedHead : Event :=
  .hbpVoice true (masterHead dmrCodec [2, 2, 2, 2] [0, 0, 7] [0, 0, 2]) rtpDraw fun _ => 101

/-- A voice frame of stream 2. -/
def repeatedVoice : Event :=
  .hbpVoice true (masterVoice dmrCodec [2, 2, 2, 2] [0, 0, 7] [0, 0, 2] hbpfFrametypeVoicesync)
    rtpDraw fun _ => 101

/-- The terminator of stream 2. -/
def ownTerminator : Event :=
  .hbpVoice true (masterTerm dmrCodec [2, 2, 2, 2] [0, 0, 7] [0, 0, 2]) rtpDraw fun _ => 102

/-- A call of stream 2 alone is ended by its terminator. -/
theorem own_terminator_ends_iff_alone :
    EndsCall dmrCodec legacyDefaults .ts1 ((translator dmrCodec legacyDefaults).run
      Translator.initial [repeatedHead, repeatedVoice]).1 ownTerminator := by
  have headIn : ∃ frame ∈ frameIn legacyDefaults .ts1 Translator.initial repeatedHead,
      frame.isHead = true ∧ frame.stream = [2, 2, 2, 2] := by decide +kernel
  have alone : SlotMeets dmrCodec legacyDefaults .ts1
      (fun _ slot part => part.OnlyHeaders legacyDefaults [2, 2, 2, 2] slot)
      (Translator.step dmrCodec legacyDefaults Translator.initial repeatedHead).1
      [repeatedVoice] := by
    decide +kernel
  apply (own_terminator_ends_iff dmrCodec rfl .ts1 [] [repeatedVoice] headIn alone
    (by decide +kernel) (by decide +kernel)).mpr
  left
  refine ⟨_, rfl, _, rfl, by decide +kernel, by decide +kernel, .inl ⟨rfl, .inl ?_⟩⟩
  decide +kernel

/-- A call whose header was merged into that of stream 1 is not. -/
theorem own_terminator_ignored_merged :
    let start := ((translator dmrCodec legacyDefaults).run Translator.initial masterFirst).1
    let state := ((translator dmrCodec legacyDefaults).run Translator.initial
      (masterFirst ++ repeatedHead :: [repeatedVoice])).1
    (∃ frame ∈ frameIn legacyDefaults .ts1 start repeatedHead,
      frame.isHead = true ∧ frame.stream = [2, 2, 2, 2]) ∧
    SlotMeets dmrCodec legacyDefaults .ts1
      (fun _ slot part => part.OnlyHeaders legacyDefaults [2, 2, 2, 2] slot)
      (Translator.step dmrCodec legacyDefaults start repeatedHead).1 [repeatedVoice] ∧
    (state.slot .ts1).inCall.lc.isSome = true ∧
    (∃ frame ∈ frameIn legacyDefaults .ts1 state ownTerminator,
      frame.isTerm = true ∧ frame.stream = [2, 2, 2, 2]) ∧
    ¬ EndsCall dmrCodec legacyDefaults .ts1 state ownTerminator := by
  intro start state
  refine ⟨by decide +kernel, by decide +kernel, by decide +kernel, by decide +kernel,
    fun ends => ?_⟩
  have goesOn : ((Translator.step dmrCodec legacyDefaults state ownTerminator).1.slot
      .ts1).inCall.lc.isSome = true := by decide +kernel
  rw [ends.lc] at goesOn
  cases goesOn

/-- A terminator of the stream is let in and ends the call of the timeslot. -/
structure EndedBy (dmr : DmrUtils) (cfg : Config) (ts : Timeslot) (stream : Bytes) (tr : Translator)
    (event : Event) : Prop where
  accepted : ∃ frame ∈ frameIn cfg ts tr event, frame.isTerm = true ∧ frame.stream = stream
  active : (tr.slot ts).inCall.lc.isSome = true
  closed : ((Translator.step dmr cfg tr event).1.slot ts).inCall.lc = none

/-- The callback brings the timeslot a voice frame of the stream. -/
def Event.VoiceOf (ts : Timeslot) (stream : Bytes) (event : Event) : Prop :=
  ∃ frame draw clock, event.atSlot ts = some (.hbpFrame frame draw clock) ∧
    frame.isHead = false ∧ frame.isTerm = false ∧ frame.stream = stream

/-- A voice frame opens a call exactly as a late entry: in the packet flow, without a call, and let
in by the lock. -/
theorem SlotEvent.opens_voice_iff {cfg : Config} {slot : Slot} {frame : HbpFrame} (draw : RtpDraw)
    (clock : Clock) (notHead : frame.isHead = false) (notTerm : frame.isTerm = false) :
    (SlotEvent.hbpFrame frame draw clock).Opens cfg slot ↔
      cfg.legacyFlow = false ∧ slot.inCall.lc = none ∧
        ¬ (SlotEvent.hbpFrame frame draw clock).Rejected cfg slot := by
  rw [← SlotEvent.letIn_hbpFrame_iff]
  simp only [SlotEvent.Opens, notHead, notTerm, Bool.false_eq_true, false_and, false_or, true_and]
  tauto

/-- A voice frame generates packets only in a call that it opens or finds open. -/
theorem voice_generates (dmr : DmrUtils) {cfg : Config} (ts : Timeslot) (shared : Shared)
    {slot : Slot} {frame : HbpFrame} {draw : RtpDraw} {clock : Clock}
    (notHead : frame.isHead = false) (notTerm : frame.isTerm = false)
    (generates : generatedEntries
      (slotStep dmr cfg ts shared slot (.hbpFrame frame draw clock)).2.2 ≠ []) :
    (SlotEvent.hbpFrame frame draw clock).Opens cfg slot ∨ slot.inCall.lc.isSome = true := by
  by_cases letIn : (SlotEvent.hbpFrame frame draw clock).letIn cfg slot = some frame
  · obtain ⟨lock, outcome⟩ := SlotEvent.letIn_outcome letIn dmr ts shared
    generalize slotStep dmr cfg ts shared slot (.hbpFrame frame draw clock) = result at *
    cases outcome with
    | foreignTerm | headMerged | headOpened | endedSilent | voiceIgnored => exact absurd rfl generates
    | headStarted opened head => exact absurd (notHead.symm.trans head) Bool.false_ne_true
    | ended term => exact absurd (notTerm.symm.trans term) Bool.false_ne_true
    | voiceContinued notHead notTerm opened => exact .inr opened
    | voiceOpened opened notHead notTerm closed flow =>
        exact .inl ⟨letIn, .inr ⟨notHead, notTerm, closed, flow⟩⟩
  · rw [SlotEvent.letIn_hbpFrame_iff, not_not] at letIn
    obtain ⟨lock, left⟩ := letIn.slotStep_eq dmr ts shared
    rw [left] at generates
    exact absurd rfl generates

/-- A call is open only when some frame has opened it since. -/
theorem open_of_opens (dmr : DmrUtils) (cfg : Config) (ts : Timeslot) {tr : Translator}
    (closed : (tr.slot ts).inCall.lc = none) (events : List Event)
    (opened : (((translator dmr cfg).run tr events).1.slot ts).inCall.lc.isSome = true) :
    SlotOccurs dmr cfg ts (fun slot part => part.Opens cfg slot) tr events := by
  have since := slot_run_occurs dmr cfg ts (fun _ _ => True) (fun slot part => part.Opens cfg slot)
    (fun seen slot => slot.inCall.lc.isSome = true → seen) ?_ tr events
    (slotMeets_of_forall dmr cfg ts _ (fun _ _ _ => trivial) tr events) False (by simp [closed])
  · simpa using since opened
  · intro shared slot part seen _ before active
    by_cases opens : part.Opens cfg slot
    · exact .inr opens
    · obtain ⟨-, gone | ⟨goes, -⟩⟩ := slotStep_keptOrOver dmr ts shared opens
      · exact absurd gone (Option.isSome_iff_ne_none.mp active)
      · exact .inl (before (goes.symm.trans active))

/-- After a terminator of a stream has ended its call, a later voice frame of the stream opens a
call exactly in the packet flow, without an open call and let in by the lock. It generates packets
only then or in a call that another frame has opened since the terminator. -/
theorem late_voice_after_terminator (dmr : DmrUtils) (cfg : Config) (ts : Timeslot)
    (before : List Event) {term : Event} (later : List Event) {voice : Event} {stream : Bytes}
    (ended : EndedBy dmr cfg ts stream ((translator dmr cfg).run Translator.initial before).1 term)
    (late : voice.VoiceOf ts stream) :
    let finished := (Translator.step dmr cfg
      ((translator dmr cfg).run Translator.initial before).1 term).1
    let state := ((translator dmr cfg).run Translator.initial (before ++ term :: later)).1
    let result := Translator.step dmr cfg state voice
    let entersLate := cfg.legacyFlow = false ∧ (state.slot ts).inCall.lc = none ∧
      ¬ Rejected cfg ts state voice
    ((result.1.slot ts).inCall.serial ≠ (state.slot ts).inCall.serial ↔ entersLate) ∧
      (generatedEntries (slotActions ts result.2) ≠ [] → entersLate ∨
        ((state.slot ts).inCall.lc.isSome = true ∧
          SlotOccurs dmr cfg ts (fun slot part => part.Opens cfg slot) finished later)) := by
  intro finished state result entersLate
  obtain ⟨frame, draw, clock, seen, notHead, notTerm, -⟩ := late
  obtain ⟨left, actions⟩ := Translator.step_seen dmr cfg state seen
  have opens : (SlotEvent.hbpFrame frame draw clock).Opens cfg (state.slot ts) ↔ entersLate := by
    rw [SlotEvent.opens_voice_iff draw clock notHead notTerm, ← rejected_iff seen]
  have reached : state = ((translator dmr cfg).run finished later).1 := by
    change ((translator dmr cfg).run Translator.initial (before ++ term :: later)).1 = _
    rw [Mealy.run_append, Mealy.run_cons]
    rfl
  rw [← opens]
  constructor
  · rw [show result.1.slot ts = _ from left]
    constructor
    · intro changed
      by_contra opensNot
      exact changed (slotStep_keptOrOver dmr ts state.shared opensNot).1
    · intro opened
      rw [(slotStep_opens dmr ts state.shared opened).2.2]
      omega
  · intro generates
    rw [show slotActions ts result.2 = _ from actions] at generates
    rcases voice_generates dmr ts state.shared notHead notTerm generates with opened | active
    · exact .inl opened
    · refine .inr ⟨active, ?_⟩
      rw [reached] at active
      exact open_of_opens dmr cfg ts ended.closed later active

/-- The terminator of stream 1. -/
def masterTerminator : Event :=
  .hbpVoice true (masterTerm dmrCodec [1, 1, 1, 1] [0, 0, 7] [0, 0, 2]) rtpDraw fun _ => 100

/-- A delayed voice frame of stream 1. -/
def delayedVoice : Event :=
  .hbpVoice true (masterVoice dmrCodec [1, 1, 1, 1] [0, 0, 7] [0, 0, 2] hbpfFrametypeVoice) rtpDraw
    fun _ => 101

/-- In the legacy flow the delayed frame opens no call. -/
theorem late_voice_after_terminator_legacy :
    let state := ((translator dmrCodec legacyDefaults).run Translator.initial
      (startedCall ++ masterTerminator :: [])).1
    ((Translator.step dmrCodec legacyDefaults state delayedVoice).1.slot .ts1).inCall.serial =
      (state.slot .ts1).inCall.serial := by
  intro state
  have ended : EndedBy dmrCodec legacyDefaults .ts1 [1, 1, 1, 1]
      ((translator dmrCodec legacyDefaults).run Translator.initial startedCall).1 masterTerminator :=
    ⟨by decide +kernel, by decide +kernel, by decide +kernel⟩
  have late : delayedVoice.VoiceOf .ts1 [1, 1, 1, 1] :=
    ⟨_, _, _, rfl, by decide +kernel, by decide +kernel, by decide +kernel⟩
  have law := late_voice_after_terminator dmrCodec legacyDefaults .ts1 startedCall [] ended late
  by_contra changed
  exact Bool.noConfusion (law.1.mp changed).1

/-- In the packet flow it opens a second call of its stream and generates its packets. -/
theorem delayed_voice_opens_call :
    let finished := ((translator dmrCodec {}).run Translator.initial (startedCall ++ [masterTerminator])).1
    let result := Translator.step dmrCodec {} finished delayedVoice
    EndedBy dmrCodec {} .ts1 [1, 1, 1, 1]
        ((translator dmrCodec {}).run Translator.initial startedCall).1 masterTerminator ∧
      delayedVoice.VoiceOf .ts1 [1, 1, 1, 1] ∧
      (finished.slot .ts1).inCall.serial = 1 ∧ (result.1.slot .ts1).inCall.serial = 2 ∧
      (generatedEntries (slotActions .ts1 result.2)).length = 4 := by
  intro finished result
  refine ⟨⟨by decide +kernel, by decide +kernel, by decide +kernel⟩,
    ⟨_, _, _, rfl, by decide +kernel, by decide +kernel, by decide +kernel⟩, by decide +kernel,
    by decide +kernel, by decide +kernel⟩

end Ipsc2Hbp
