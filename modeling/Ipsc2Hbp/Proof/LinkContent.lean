import Ipsc2Hbp.Proof.Link
import Ipsc2Hbp.Proof.Relay

namespace Ipsc2Hbp
open BigEndian

/-- The burst that a GROUP_VOICE packet conveys to HBP. -/
def conveyed (dmr : DmrUtils) (ts : Timeslot) (burstType : UInt8) (data : Bytes) : CallBurst :=
  if burstType = voiceHead then callHead dmr ts (gvSrcSub data) (gvDstGroup data)
  else if burstType = voiceTerm then callTerm ts (gvSrcSub data) (gvDstGroup data) []
  else callVoice ts (gvSrcSub data) (gvDstGroup data) (packVoice (voiceFrames (data.extract 33 52)))

/-- A whole DMRD frame that reads as the burst. -/
def ReadsAs (dmr : DmrUtils) (burst : CallBurst) (dmrd : Bytes) : Prop :=
  ∃ streamId, readDmrd dmr dmrd = ⟨true, streamId, burst⟩

section Conveyed
variable {dmr : DmrUtils} (documented : dmr.Documented) {cfg : Config} {ts : Timeslot}
  {data streamId : Bytes} (wide : streamId.length = 4)
include documented wide

theorem headFrame_conveys (inverts : dmr.Inverts) (long : 31 ≤ data.length) (seq : UInt8) :
    ReadsAs dmr (conveyed dmr ts voiceHead data) (headFrame dmr cfg ts data streamId seq) := by
  have reading := (headFrame_fields documented cfg ts long wide seq).reading dmr
  rw [HbpFrame.HeadOn.burst (HbpFrame.headOn rfl)] at reading
  simp only [decodeHbpVoiceLc_lcPayload documented inverts (gvLc_length documented long)] at reading
  exact ⟨streamId, reading⟩

theorem termFrame_conveys (long : 31 ≤ data.length) {lc : Bytes} (lcWide : lc.length = 9)
    (seq : UInt8) :
    ReadsAs dmr (conveyed dmr ts voiceTerm data) (termFrame dmr cfg ts data lc streamId seq) := by
  have reading := (termFrame_fields documented cfg ts long lcWide wide seq).reading dmr
  rw [HbpFrame.TermOn.burst (HbpFrame.termOn rfl)] at reading
  exact ⟨streamId, reading⟩

theorem voiceFrame_conveys (inverts : dmr.Inverts) {burstType : UInt8} (voice : IsVoice burstType)
    (long : 52 ≤ data.length) {lc : Bytes} (lcWide : lc.length = 9) {pos : Nat} (small : pos < 6)
    (seq : UInt8) : ReadsAs dmr (conveyed dmr ts burstType data)
      (voiceFrame dmr cfg ts data pos (some (dmr.encodeEmblc lc)) streamId seq) := by
  have reading := (voiceFrame_fields documented cfg ts long lcWide wide pos seq).reading dmr
  rw [HbpFrame.VoiceOn.burst (HbpFrame.voiceOn small rfl)] at reading
  simp only [extractAmbeFromDmrd_voicePayload documented inverts (voiceBytes_length long)
    (buildEmbed_length documented lcWide _)] at reading
  rw [conveyed, if_neg voice.1, if_neg voice.2]
  exact ⟨streamId, reading⟩

end Conveyed

/-- Every frame that a packet sends reads as what the packet conveys. -/
theorem BurstOutcome.conveys {dmr : DmrUtils} (documented : dmr.Documented) (inverts : dmr.Inverts)
    {cfg : Config} {ts : Timeslot} {data : Bytes} {burstType : UInt8} {urandom : StreamId} {now : Time}
    {seq : UInt8} {slot after : Slot} {actions : List Action}
    (outcome : BurstOutcome dmr cfg ts data burstType urandom now seq slot after actions)
    (long : 31 ≤ data.length) (before : slot.outCall.WellOpen dmr) :
    ∀ dmrd ∈ sentDmrd actions, ReadsAs dmr (conveyed dmr ts burstType data) dmrd := by
  intro dmrd member
  cases outcome with
  | ignored | outOfRange | enteredSilent => simp [sentDmrd] at member
  | headOpened head =>
      have copy : dmrd ∈ sentDmrd (sendFrames (headFrame dmr cfg ts data urandom.val)
        (if cfg.legacyFlow then 2 else 1) seq) := member
      obtain ⟨number, rfl⟩ := sentDmrd_sendFrames copy
      rw [head]
      exact headFrame_conveys documented urandom.property inverts long number
  | headRepeated streamId head opened =>
      obtain ⟨lc, call⟩ := before streamId opened
      obtain rfl := List.mem_singleton.mp member
      rw [head]
      exact headFrame_conveys documented call.wide inverts long seq
  | ended streamId term opened =>
      obtain ⟨lc, call⟩ := before streamId opened
      obtain rfl := List.mem_singleton.mp member
      rw [call.recorded, truthyOr_some call.lcWide, term]
      exact termFrame_conveys documented call.wide long call.lcWide seq
  | voiceSent streamId voice opened enough =>
      obtain ⟨lc, call⟩ := before streamId opened
      obtain rfl := List.mem_singleton.mp member
      rw [call.fragments]
      exact voiceFrame_conveys documented call.wide inverts voice enough call.lcWide
        (Nat.mod_lt _ (by decide)) seq
  | enteredLate late enough =>
      obtain rfl := List.mem_singleton.mp member
      exact voiceFrame_conveys documented urandom.property inverts late.voice enough
        (gvLc_length documented long) (by decide) seq

/-- A frame conveys a packet of the timeslot that the run has received. -/
def FrameOf (dmr : DmrUtils) (events : List Event) (ts : Timeslot) (dmrd : Bytes) : Prop :=
  ∃ connected data burstType urandom clock,
    .ipscVoice connected data ts burstType urandom clock ∈ events ∧
      ReadsAs dmr (conveyed dmr ts burstType data) dmrd

/-- The open call is well formed, and the frames so far convey packets. -/
structure FramesKept (dmr : DmrUtils) (origin : Bytes → Prop) (log : List Action) (slot : Slot) :
    Prop where
  wellOpen : slot.outCall.WellOpen dmr
  sent : ∀ dmrd ∈ sentDmrd log, origin dmrd

theorem FramesKept.quiet {dmr : DmrUtils} {origin : Bytes → Prop} {log actions : List Action}
    {before after : Slot} (kept : FramesKept dmr origin log before)
    (next : after.outCall.streamId = none ∨ after.outCall.SameStream before.outCall)
    (silent : sentDmrd actions = []) : FramesKept dmr origin (log ++ actions) after := by
  refine ⟨fun streamId current => ?_, ?_⟩
  · rcases next with closed | same
    · rw [closed] at current
      cases current
    · obtain ⟨lc, call⟩ := kept.wellOpen streamId (same.streamId.symm.trans current)
      exact ⟨lc, same.open call⟩
  · rw [sentDmrd_append, silent, List.append_nil]
    exact kept.sent

theorem FramesKept.ipscVoice {dmr : DmrUtils} (documented : dmr.Documented) (inverts : dmr.Inverts)
    {cfg : Config} {ts : Timeslot} {origin : Bytes → Prop} {log : List Action} {slot : Slot}
    (kept : FramesKept dmr origin log slot) {data : Bytes} {burstType : UInt8}
    (long : 31 ≤ data.length)
    (brings : ∀ dmrd, ReadsAs dmr (conveyed dmr ts burstType data) dmrd → origin dmrd)
    (connected : Bool) (urandom : StreamId) (clock : Clock) (shared : Shared) :
    let result := ipscVoiceReceived dmr cfg connected data ts burstType urandom clock shared slot
    FramesKept dmr origin (log ++ result.2.2) result.2.1 := by
  cases connected with
  | false => exact kept.quiet (.inr ⟨rfl, rfl, rfl, rfl⟩) rfl
  | true =>
      rw [ipscVoiceReceived_eq]
      have stream := legacyPrelude_stream cfg data burstType clock slot
      have gate := ipscGate_cases cfg data burstType clock slot
      generalize legacyPrelude cfg data burstType clock slot = prelude at stream gate
      generalize ipscGate cfg data burstType clock slot = passed at gate
      rcases passed with ⟨dropped, after⟩
      cases gate with
      | stale | blocked | suppressed => exact kept.quiet stream rfl
      | admitted lock reflect verdict heard =>
          simp only [Bool.false_eq_true, if_false]
          have waiting : FramesKept dmr origin (log ++ [])
              { prelude.2 with lock := lock, reflect := reflect, ipscBusyLast := clock 4 } :=
            kept.quiet stream rfl
          have outcome := sendBurst_cases dmr cfg ts data burstType urandom (clock 5)
            (shared.learn data)
            { prelude.2 with lock := lock, reflect := reflect, ipscBusyLast := clock 4 }
          refine ⟨outcome.wellOpen documented long waiting.wellOpen, fun dmrd member => ?_⟩
          rw [sentDmrd_append] at member
          rcases List.mem_append.mp member with before | now
          · exact kept.sent dmrd before
          · exact brings dmrd (outcome.conveys documented inverts long waiting.wellOpen dmrd now)

/-- Every frame that a run hands to the HBP client conveys a packet of its timeslot. -/
theorem sent_frameOf {dmr : DmrUtils} (documented : dmr.Documented) (inverts : dmr.Inverts)
    (cfg : Config) {events : List Event} (delivered : ∀ event ∈ events, event.Delivered)
    {ts : Timeslot} {dmrd : Bytes}
    (sent : .slot ts (.sendDmrd dmrd) ∈ ((translator dmr cfg).run Translator.initial events).2) :
    FrameOf dmr events ts dmrd := by
  have met : SlotMeets dmr cfg ts (fun _ _ part => True ∧
      ∃ event ∈ events, event.AtSlot ts part ∧ part.Delivered) Translator.initial events :=
    (slotMeets_of_forall dmr cfg ts _ (fun _ _ _ => trivial) _ events).and_events
      fun event member part seen =>
        ⟨event, member, Event.atSlot_cases seen, (delivered event member).atSlot seen⟩
  have kept := slot_run_invariant dmr cfg ts _ (FramesKept dmr (FrameOf dmr events ts)) ?_
    Translator.initial events Translator.initial_wide met
    ⟨fun _ current => (nomatch current), by simp [sentDmrd]⟩
  · have action : Action.sendDmrd dmrd ∈
        slotActions ts ((translator dmr cfg).run Translator.initial events).2 :=
      List.mem_filterMap.mpr ⟨_, sent, by simp⟩
    exact kept.sent dmrd (List.mem_filterMap.mpr ⟨_, action, rfl⟩)
  · rintro log shared slot part - - ⟨-, event, member, seen, whole⟩ kept
    cases seen with
    | ipscVoice connected data burstType urandom clock =>
        exact kept.ipscVoice documented inverts whole
          (fun dmrd reads => ⟨connected, data, burstType, urandom, clock, member, reads⟩)
          connected urandom clock shared
    | hbpVoice registered dmrd frame draw clock =>
        obtain ⟨same, fromHbp⟩ := hbpFrameReceived_outbound dmr cfg frame draw clock shared slot
        exact kept.quiet (.inr (.of_eq same)) (outbound_fromHbp fromHbp).1
    | drain clock =>
        have outcome := drainHbpToIpscQueue_cases cfg clock slot
        have same : (drainHbpToIpscQueue cfg clock slot).1.outCall = slot.outCall :=
          outcome.side.outCall
        exact kept.quiet (.inr (.of_eq same)) (outbound_fromHbp (outcome.fromHbp dmr)).1
    | checkCallTimeouts timeout clock =>
        refine kept.quiet ?_ rfl
        exact (checkCallTimeouts_frame cfg timeout clock ts slot).1.symm.imp_right .of_eq
    | peerLost | hbpDisconnected => exact kept.quiet (.inl rfl) rfl

/-- The frame that an effect of the program sends to the HBP master, if any. -/
def CoreOutput.frame? : CoreOutput → Option Bytes
  | .hbp _ (.sendDmrd dmrd) => some dmrd
  | .hbp _ _ | .translator .. => none

def BridgeOutput.frame? : BridgeOutput → Option Bytes
  | .core output => output.frame?
  | .ipsc _ => none

theorem sentFrames_append (first second : List Output) :
    sentFrames (first ++ second) = sentFrames first ++ sentFrames second := List.filterMap_append

/-- What is no voice sends no frame. -/
theorem frames_none {outputs : List HbpOutput} (quiet : ∀ output ∈ outputs, ¬ output.IsVoice)
    (session : Nat) : (outputs.map (CoreOutput.hbp session)).filterMap CoreOutput.frame? = [] := by
  rw [List.filterMap_map, List.filterMap_eq_nil_iff]
  intro output member
  have silent := quiet output member
  cases output with
  | sendDmrd => exact absurd trivial silent
  | send | hbpConnected | hbpDisconnected | hbpVoiceReceived | raised => rfl

section Frames
variable (digests : Digests) (dmr : DmrUtils) (cfg : Config)

/-- The client sends at most the frames that the translator hands to it, in order. -/
theorem Core.obey_frames (client : HbpClient) (outputs : List Output) :
    ((obey cfg client outputs).2.filterMap CoreOutput.frame?).Sublist (sentFrames outputs) := by
  induction outputs generalizing client with
  | nil => exact .slnil
  | cons output rest ih =>
      have first : (((command cfg client output).2.map (CoreOutput.hbp client.session)).filterMap
          CoreOutput.frame?).Sublist (sentFrames [output]) := by
        cases output with
        | activate =>
            rw [command, frames_none (fun _ => activate_brings client)]
            exact .slnil
        | deactivate =>
            rw [command, frames_none (fun _ => deactivate_brings cfg client)]
            exact .slnil
        | raised => exact .slnil
        | slot ts action =>
            cases action with
            | sendDmrd dmrd =>
                rcases sendDmrd_cases client dmrd with silent | sent
                · rw [command, silent]
                  exact List.nil_sublist _
                · rw [command, sent]
                  exact .refl _
            | openStream | generate | queueFull | slotBusy | sendToPeer | raised => exact .slnil
      rw [obey]
      dsimp only
      rw [List.filterMap_cons_none rfl, List.filterMap_append]
      exact sentFrames_append [output] rest ▸ first.append (ih _)

theorem Core.translate_frames (event : Event) (core : Core) :
    ((core.translate dmr cfg event).2.filterMap CoreOutput.frame?).Sublist
      (sentFrames ((core.translate dmr cfg event).2.filterMap CoreOutput.translated)) := by
  have view : (core.translate dmr cfg event).2.filterMap CoreOutput.translated =
      (Translator.step dmr cfg core.translator event).2 := obey_translated ..
  rw [view]
  exact obey_frames cfg core.client _

theorem Core.notify_frames (registered : Bool) (draw : RtpDraw) (clock : Clock)
    {outputs : List HbpOutput} (own : ∀ dmrd, .sendDmrd dmrd ∉ outputs) (core : Core) :
    ((notify dmr cfg registered draw clock core outputs).2.filterMap CoreOutput.frame?).Sublist
      (sentFrames ((notify dmr cfg registered draw clock core outputs).2.filterMap
        CoreOutput.translated)) := by
  induction outputs generalizing core with
  | nil => exact .slnil
  | cons output rest ih =>
      have later := ih fun dmrd member => own dmrd (List.mem_cons_of_mem _ member)
      have none : (CoreOutput.hbp core.client.session output).frame? = none := by
        cases output with
        | sendDmrd dmrd => exact absurd List.mem_cons_self (own dmrd)
        | send | hbpConnected | hbpDisconnected | hbpVoiceReceived | raised => rfl
      rw [notify]
      dsimp only
      rw [List.filterMap_cons_none none, List.filterMap_cons_none rfl, List.filterMap_append,
        List.filterMap_append, sentFrames_append]
      cases callback registered draw clock output with
      | none => exact (List.Sublist.refl []).append (later core)
      | some event => exact (core.translate_frames dmr cfg event).append (later _)

theorem Bridge.forward_frames (ipsc : IpscStack) (log : List CoreOutput) :
    (forward digests cfg ipsc log).filterMap BridgeOutput.frame? =
      log.filterMap CoreOutput.frame? := by
  induction log with
  | nil => rfl
  | cons output rest ih =>
      have sends : ((passedOn digests cfg ipsc output).map BridgeOutput.ipsc).filterMap
          BridgeOutput.frame? = [] := by
        simp [List.filterMap_eq_nil_iff, BridgeOutput.frame?]
      rw [forward_cons, List.filterMap_cons, List.filterMap_append, sends, ih, List.nil_append,
        List.filterMap_cons]
      rfl

theorem Bridge.deliver_frames (urandom : StreamId) (clock : Clock) (ipsc : IpscStack)
    (outputs : List IpscOutput) (core : Core) :
    ((deliver digests dmr cfg urandom clock ipsc core outputs).2.filterMap
        BridgeOutput.frame?).Sublist
      (sentFrames ((deliver digests dmr cfg urandom clock ipsc core outputs).2.filterMap
        BridgeOutput.translated)) := by
  induction outputs generalizing core with
  | nil => exact .slnil
  | cons output rest ih =>
      have first : ((answer dmr cfg urandom clock core output).2.filterMap
          CoreOutput.frame?).Sublist (sentFrames
            ((answer dmr cfg urandom clock core output).2.filterMap CoreOutput.translated)) := by
        unfold answer
        cases call core.client.isConnected urandom clock output with
        | none => exact .slnil
        | some event => exact core.translate_frames dmr cfg event
      rw [← forward_frames digests cfg ipsc, ← forward_translated digests cfg ipsc] at first
      rw [deliver_cons]
      dsimp only
      split
      · exact first
      · rw [List.cons_append, List.filterMap_cons_none rfl, List.filterMap_cons_none rfl,
          List.filterMap_append, List.filterMap_append, sentFrames_append]
        exact first.append (ih _)

theorem Bridge.step_frames (state : Bridge) (event : BridgeEvent) :
    ((Bridge.step digests dmr cfg state event).2.filterMap BridgeOutput.frame?).Sublist
      (sentFrames ((Bridge.step digests dmr cfg state event).2.filterMap
        BridgeOutput.translated)) := by
  cases event with
  | ipsc event urandom clock => exact deliver_frames digests dmr cfg urandom clock _ _ _
  | drain ts clock =>
      simp only [Bridge.step, forward_frames, forward_translated]
      exact state.core.translate_frames dmr cfg _
  | hbp event draw clock =>
      have own (dmrd : Bytes) : .sendDmrd dmrd ∉ (state.core.client.step digests cfg event).2 := by
        intro member
        obtain ⟨_, _, -, other⟩ := client_brings digests cfg member trivial
        cases other
      simp only [Bridge.step, forward_frames, forward_translated]
      exact Core.notify_frames dmr cfg state.ipsc.isPeerRegistered draw clock own _

/-- In every run the client sends at most the frames that the translator hands to it, in order. -/
theorem Bridge.run_frames (state : Bridge) (events : List BridgeEvent) :
    (((bridge digests dmr cfg).run state events).2.filterMap BridgeOutput.frame?).Sublist
      (sentFrames (((bridge digests dmr cfg).run state events).2.filterMap
        BridgeOutput.translated)) := by
  induction events generalizing state with
  | nil => exact .slnil
  | cons event rest ih =>
      rw [Mealy.run_cons, List.filterMap_append, List.filterMap_append, sentFrames_append]
      exact (step_frames digests dmr cfg state event).append (ih _)

end Frames

section Program
variable {digests : Digests} {dmr : DmrUtils} {cfg : Config} {events : List BridgeEvent}

/-- A frame that the program sends to HBP conveys a packet that its IPSC stack has passed on. -/
theorem run_frame_heard (documented : dmr.Documented) (inverts : dmr.Inverts)
    (parsed : ∀ data ts burstType, .ipsc (.ipscVoiceReceived data ts burstType) ∈
      ((bridge digests dmr cfg).run (Bridge.initial cfg) events).2 → 31 ≤ data.length) {dmrd : Bytes}
    (sent : dmrd ∈ ((bridge digests dmr cfg).run (Bridge.initial cfg) events).2.filterMap
      BridgeOutput.frame?) :
    ∃ ts burstType data, .ipsc (.ipscVoiceReceived data ts burstType) ∈
        ((bridge digests dmr cfg).run (Bridge.initial cfg) events).2 ∧
      ReadsAs dmr (conveyed dmr ts burstType data) dmrd := by
  obtain ⟨calls, caused, ran⟩ := Bridge.run_translates digests dmr cfg (Bridge.initial cfg) events
  have handed := (Bridge.run_frames digests dmr cfg (Bridge.initial cfg) events).mem sent
  obtain ⟨output, inside, shown⟩ := List.mem_filterMap.mp handed
  split at shown
  case h_2 => cases shown
  case h_1 ts dmrd =>
    obtain rfl := Option.some.inj shown
    have delivered : ∀ call ∈ calls, call.Delivered := by
      intro call member
      have cause := caused call member
      cases call with
      | ipscVoice connected data ts burstType => exact parsed data ts burstType cause
      | hbpVoice | drain | checkCallTimeouts | peerRegistered | peerLost | hbpDisconnected => trivial
    rw [← (Prod.mk.inj ran).2] at inside
    obtain ⟨connected, data, burstType, urandom, clock, member, reads⟩ :=
      sent_frameOf documented inverts cfg delivered inside
    exact ⟨ts, burstType, data, caused _ member, reads⟩

/-- A packet that the program hands over comes from a DMRD frame that it has received from HBP. -/
theorem run_handed_from {ts : Timeslot} {entry : QueueEntry}
    (member : (ts, entry) ∈ handedOver (((bridge digests dmr cfg).run (Bridge.initial cfg)
      events).2.filterMap BridgeOutput.translated)) :
    ∃ heard now draw clock, .hbp (.datagramReceived heard now) draw clock ∈ events ∧
      dmrdLen ≤ heard.length ∧ (HbpFrame.read heard).timeslot = ts ∧
      (HbpFrame.read heard).Wide ∧ entry.From dmr cfg (HbpFrame.read heard) := by
  obtain ⟨calls, caused, ran⟩ := Bridge.run_translates digests dmr cfg (Bridge.initial cfg) events
  have inside := mem_handedOver.mp member
  rw [← (Prod.mk.inj ran).2] at inside
  obtain ⟨registered, heard, draw, clock, frame, called, accepted, here, own⟩ :=
    handed_from dmr cfg calls inside
  obtain ⟨now, draw, clock, received⟩ := caused _ called
  have wide := acceptedFrame_wide accepted
  obtain ⟨long, rfl⟩ := acceptedFrame_read accepted
  exact ⟨heard, now, draw, clock, received, long, here, wide, own⟩

end Program

/-- A whole frame reads as one that was received, or as the header of its call. -/
structure Repeats (dmr : DmrUtils) (heard sent : Bytes) : Prop where
  heardWhole : (readDmrd dmr heard).whole = true
  sentWhole : (readDmrd dmr sent).whole = true
  burst : (readDmrd dmr sent).burst = (readDmrd dmr heard).burst ∨
    (readDmrd dmr heard).burst.burstType ≠ voiceTerm ∧
      (readDmrd dmr sent).burst = callHead dmr (readDmrd dmr heard).burst.timeslot
        (readDmrd dmr heard).burst.srcSub (readDmrd dmr heard).burst.dstGroup

/-- What a packet of a frame conveys is the frame's own burst or its call's header. -/
theorem QueueEntry.From.repeats {dmr : DmrUtils} (documented : dmr.Documented) {cfg : Config}
    {heard : Bytes} {entry : QueueEntry} (own : entry.From dmr cfg (HbpFrame.read heard))
    (long : dmrdLen ≤ heard.length) (wide : (HbpFrame.read heard).Wide) {sent : Bytes}
    (reads : ReadsAs dmr
      (conveyed dmr (HbpFrame.read heard).timeslot entry.burstType entry.packet) sent) :
    Repeats dmr heard sent := by
  obtain ⟨streamId, reads⟩ := reads
  have whole : (readDmrd dmr heard).whole = true := decide_eq_true long
  have burst : (readDmrd dmr heard).burst = (HbpFrame.read heard).burst dmr := rfl
  refine ⟨whole, by rw [reads], ?_⟩
  rw [reads, burst]
  generalize HbpFrame.read heard = frame at own wide
  rw [conveyed, own.srcSub, own.dstGroup]
  rcases own.kind with ⟨head, notTerm⟩ | ⟨term, termOn⟩ | ⟨voice, voiceOn, ambe⟩
  · right
    rw [if_pos head]
    refine ⟨fun (term : frame.burstType = voiceTerm) => ?_, rfl⟩
    unfold HbpFrame.burstType at term
    rw [notTerm] at term
    split at term
    · exact absurd term (by decide)
    · exact frame.slotBurst_voice (.inr term)
  · left
    rw [if_neg (by rw [term]; decide), if_pos term, termOn.burst]
    rfl
  · left
    have apart : slotVoice frame.timeslot ≠ voiceHead ∧ slotVoice frame.timeslot ≠ voiceTerm := by
      cases frame.timeslot <;> decide
    obtain ⟨rest, behind⟩ := ambe
    have content : entry.packet.extract 33 52 = extractAmbeFromDmrd dmr frame.payload := by
      rw [List.extract_eq_take_drop, ← behind]
      exact List.take_left' (extractAmbeFromDmrd_length documented wide.payload)
    rw [voice, if_neg apart.1, if_neg apart.2, content, packVoice_extractAmbe documented wide.payload,
      voiceOn.burst]
    rfl

namespace Link

/-- The frames that the clients of the two sides send to their HBP masters. -/
def masterFrames (log : List LinkOutput) : List Bytes :=
  (log.filterMap Sum.getLeft?).filterMap BridgeOutput.frame?

def peerFrames (log : List LinkOutput) : List Bytes :=
  (log.filterMap Sum.getRight?).filterMap BridgeOutput.frame?

end Link

variable {digests : Digests} {dmr : DmrUtils} {link : Link}

/-- In every run over a network that loses, repeats and delays datagrams, each frame that a side sends
to its HBP master reads as a frame that the other side has received from its own, with the same voice,
or as the header of that frame's call. -/
theorem link_content (documented : digests.Documented) (described : dmr.Documented)
    (inverts : dmr.Inverts) (proper : link.Proper) (events : List LinkEvent)
    (carried : link.Carried digests dmr events) :
    let log := ((link.machine digests dmr).run link.initial events).2
    (∀ sent ∈ Link.masterFrames log, ∃ heard now draw clock,
      .inr (.hbp (.datagramReceived heard now) draw clock) ∈ events ∧ Repeats dmr heard sent) ∧
    (∀ sent ∈ Link.peerFrames log, ∃ heard now draw clock,
      .inl (.hbp (.datagramReceived heard now) draw clock) ∈ events ∧ Repeats dmr heard sent) := by
  intro log
  have lawful := Link.lawful_run documented proper carried
  obtain ⟨masterRun, peerRun⟩ := link.run_sides digests dmr events
  have masterLog := congrArg Prod.snd masterRun
  have peerLog := congrArg Prod.snd peerRun
  dsimp only at masterLog peerLog
  constructor
  · intro sent member
    have passed (output : BridgeOutput) (shown : output ∈ log.filterMap Sum.getLeft?) :
        .inl output ∈ log := by simpa using shown
    rw [Link.masterFrames, ← masterLog] at member
    obtain ⟨ts, burstType, data, passes, reads⟩ := run_frame_heard described inverts
      (fun data ts burstType shown => by
        rw [masterLog] at shown
        exact parseGroupVoiceMeta_long (lawful.masterTells _ (passed _ shown)).1) member
    rw [masterLog] at passes
    obtain ⟨entry, handed, rfl, rfl⟩ := Link.master_voice documented proper carried (passed _ passes)
    rw [Link.peerHanded, ← peerLog] at handed
    obtain ⟨heard, now, draw, clock, received, long, rfl, wide, own⟩ := run_handed_from handed
    exact ⟨heard, now, draw, clock, by simpa using received, own.repeats described long wide reads⟩
  · intro sent member
    have passed (output : BridgeOutput) (shown : output ∈ log.filterMap Sum.getRight?) :
        .inr output ∈ log := by simpa using shown
    rw [Link.peerFrames, ← peerLog] at member
    obtain ⟨ts, burstType, data, passes, reads⟩ := run_frame_heard described inverts
      (fun data ts burstType shown => by
        rw [peerLog] at shown
        exact parseGroupVoiceMeta_long (lawful.peerTells _ (passed _ shown)).1) member
    rw [peerLog] at passes
    obtain ⟨entry, handed, rfl, rfl⟩ := Link.peer_voice documented proper carried (passed _ passes)
    rw [Link.masterHanded, ← masterLog] at handed
    obtain ⟨heard, now, draw, clock, received, long, rfl, wide, own⟩ := run_handed_from handed
    exact ⟨heard, now, draw, clock, by simpa using received, own.repeats described long wide reads⟩

/-- The master's client has logged in too when the header of the call arrives. -/
def relayRun : List LinkEvent :=
  homeRun.dropLast ++ [.inl (clientEvent .loopTop 3), .inl (clientEvent .endpointCreated 3)] ++
    List.replicate 3 (.inl (clientEvent (.datagramReceived (hbpfRptack ++ [1, 2, 3, 4]) 4) 4)) ++
    [peerToMaster homeHead 6]

theorem relayRun_carried : homeLink.Carried linkDigests dmrCodec relayRun := by
  unfold Link.Carried
  decide +kernel

theorem link_content_relay :
    ∃ sent ∈ Link.masterFrames ((homeLink.machine linkDigests dmrCodec).run homeLink.initial relayRun).2,
      ∃ heard now draw clock, .inr (.hbp (.datagramReceived heard now) draw clock) ∈ relayRun ∧
        Repeats dmrCodec heard sent := by
  obtain ⟨sent, member⟩ := List.exists_mem_of_length_pos (show 0 < (Link.masterFrames
    ((homeLink.machine linkDigests dmrCodec).run homeLink.initial relayRun).2).length by decide +kernel)
  exact ⟨sent, member, (link_content linkDigests_documented dmrCodec_documented dmrCodec_inverts
    homeLink_proper relayRun relayRun_carried).1 sent member⟩

end Ipsc2Hbp
