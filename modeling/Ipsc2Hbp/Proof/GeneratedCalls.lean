import Ipsc2Hbp.Library.Sessions
import Ipsc2Hbp.Proof.GroupVoice

namespace Ipsc2Hbp
open BigEndian Sessions

/-- The packets that a log passes to `_send_hbp_to_ipsc`, with their queue entries. -/
def generatedEntries (log : List Action) : List QueueEntry :=
  log.filterMap fun action => match action with
    | .generate entry => some entry
    | _ => none

/-- The packets that a log passes to `_send_hbp_to_ipsc`. -/
def generatedPackets (log : List Action) : List Bytes := (generatedEntries log).map QueueEntry.packet

@[simp] theorem generatedPackets_append (first second : List Action) :
    generatedPackets (first ++ second) = generatedPackets first ++ generatedPackets second := by
  simp [generatedPackets, generatedEntries]

/-- The stream byte and the next RTP counters of a call. -/
structure CallCounters where
  streamId : UInt8
  rtpSeq : UInt16
  rtpTs : UInt32

/-- The counters that the slot keeps for its inbound call. -/
def InCall.counters (inCall : InCall) : CallCounters := ⟨inCall.streamId, inCall.rtpSeq, inCall.rtpTs⟩

/-- The packets carry one stream byte and consecutive RTP counters, which end at the given ones. -/
inductive Numbered (streamId : UInt8) : List Bytes → UInt16 → UInt32 → Prop
  | nil (rtpSeq : UInt16) (rtpTs : UInt32) : Numbered streamId [] rtpSeq rtpTs
  | snoc {packets : List Bytes} {packet : Bytes} {rtpSeq : UInt16} {rtpTs : UInt32}
      (before : Numbered streamId packets rtpSeq rtpTs) (stream : gvStream packet = some streamId)
      (seq : gvRtpSeq packet = rtpSeq.toNat) (ts : gvRtpTs packet = rtpTs.toNat) :
      Numbered streamId (packets ++ [packet]) (rtpSeq + 1) (rtpTs + 480)

/-- A VOICE_HEAD packet with the given RTP byte. -/
def IsHeadPacket (rtpPt : UInt8) (packet : Bytes) : Prop :=
  gvBurstType packet = some voiceHead ∧ gvRtpPt packet = some rtpPt

/-- A voice packet of the timeslot. -/
def IsVoicePacket (ts : Timeslot) (packet : Bytes) : Prop :=
  gvBurstType packet = some (if ts = .ts2 then slot2Voice else slot1Voice) ∧
    gvRtpPt packet = some 0x5d

/-- A VOICE_TERM packet with the END bit. -/
def IsTermPacket (packet : Bytes) : Prop :=
  gvBurstType packet = some voiceTerm ∧ gvRtpPt packet = some 0x5e ∧
    ∃ callInfo, gvCallInfo packet = some callInfo ∧ callInfo &&& endMsk = endMsk

/-- The configured number of headers, of which only the first has the RTP byte of a start. -/
inductive HeadRun : Nat → List Bytes → Prop
  | nil : HeadRun 0 []
  | snoc {count : Nat} {packets : List Bytes} {packet : Bytes} (before : HeadRun count packets)
      (head : IsHeadPacket (if count = 0 then 0xdd else 0x5d) packet) :
      HeadRun (count + 1) (packets ++ [packet])

/-- The packets of a call before its end: its headers and then voice. -/
def CallBody (cfg : Config) (ts : Timeslot) (packets : List Bytes) : Prop :=
  ∃ heads voices, packets = heads ++ voices ∧ HeadRun cfg.headerCount heads ∧
    ∀ packet ∈ voices, IsVoicePacket ts packet

/-- The open call of a timeslot with its counters. -/
def OpenCall (cfg : Config) (ts : Timeslot) (counters : CallCounters) (packets : List Bytes) : Prop :=
  CallBody cfg ts packets ∧ Numbered counters.streamId packets counters.rtpSeq counters.rtpTs

/-- A whole call: headers, voice and at most one terminator, numbered throughout. -/
def GeneratedCall (cfg : Config) (ts : Timeslot) (packets : List Bytes) : Prop :=
  ∃ body terms streamId rtpSeq rtpTs, packets = body ++ terms ∧ CallBody cfg ts body ∧
    terms.length ≤ 1 ∧ (∀ packet ∈ terms, IsTermPacket packet) ∧
    Numbered streamId packets rtpSeq rtpTs

/-- A call may end without a terminator. -/
theorem OpenCall.generated {cfg : Config} {ts : Timeslot} (counters : CallCounters)
    (packets : List Bytes) (opened : OpenCall cfg ts counters packets) :
    GeneratedCall cfg ts packets :=
  ⟨packets, [], _, _, _, (List.append_nil packets).symm, opened.1, Nat.zero_le 1, by simp, opened.2⟩

/-- A voice packet with the call's counters continues the call. -/
theorem OpenCall.voice {cfg : Config} {ts : Timeslot} {counters : CallCounters}
    {packets : List Bytes} {packet : Bytes} (opened : OpenCall cfg ts counters packets)
    (voice : IsVoicePacket ts packet) (stream : gvStream packet = some counters.streamId)
    (seq : gvRtpSeq packet = counters.rtpSeq.toNat) (time : gvRtpTs packet = counters.rtpTs.toNat) :
    OpenCall cfg ts ⟨counters.streamId, counters.rtpSeq + 1, counters.rtpTs + 480⟩
      (packets ++ [packet]) := by
  obtain ⟨⟨heads, voices, rfl, run, all⟩, numbered⟩ := opened
  refine ⟨⟨heads, voices ++ [packet], by simp, run, ?_⟩, .snoc numbered stream seq time⟩
  intro other member
  rcases List.mem_append.mp member with before | here
  · exact all other before
  · rwa [List.mem_singleton.mp here]

/-- A terminator with the call's counters ends the call. -/
theorem OpenCall.term {cfg : Config} {ts : Timeslot} {counters : CallCounters}
    {packets : List Bytes} {packet : Bytes} (opened : OpenCall cfg ts counters packets)
    (term : IsTermPacket packet) (stream : gvStream packet = some counters.streamId)
    (seq : gvRtpSeq packet = counters.rtpSeq.toNat) (time : gvRtpTs packet = counters.rtpTs.toNat) :
    GeneratedCall cfg ts (packets ++ [packet]) :=
  ⟨packets, [packet], _, _, _, rfl, opened.1, Nat.le_refl 1, by simpa using term,
    .snoc opened.2 stream seq time⟩

/-- The generated packets are whole calls, followed by the open call while one is started. -/
def CallHistory (cfg : Config) (ts : Timeslot) (log : List Action) (inCall : InCall) : Prop :=
  History (OpenCall cfg ts) (GeneratedCall cfg ts) (generatedPackets log)
    (if inCall.started then some inCall.counters else none)

/-- An action that generates nothing leaves the packets as they are. -/
theorem generatedPackets_silent {actions : List Action}
    (silent : ∀ action ∈ actions, ∀ entry, action ≠ .generate entry) :
    generatedPackets actions = [] := by
  have none : generatedEntries actions = [] := by
    refine List.filterMap_eq_nil_iff.mpr fun action member => ?_
    cases action with
    | generate entry => exact absurd rfl (silent _ member entry)
    | openStream | sendDmrd | queueFull | slotBusy | sendToPeer | raised => rfl
  rw [generatedPackets, none, List.map_nil]

/-- A step that generates nothing and keeps the call's counters keeps the history. -/
theorem CallHistory.kept {cfg : Config} {ts : Timeslot} {log actions : List Action}
    {inCall next : InCall} (history : CallHistory cfg ts log inCall)
    (silent : generatedPackets actions = []) (started : next.started = inCall.started)
    (counters : next.counters = inCall.counters) : CallHistory cfg ts (log ++ actions) next := by
  rw [CallHistory, generatedPackets_append, silent, List.append_nil, started, counters]
  exact history

/-- A step that generates nothing and stops the call keeps the history. -/
theorem CallHistory.stopped {cfg : Config} {ts : Timeslot} {log actions : List Action}
    {inCall next : InCall} (history : CallHistory cfg ts log inCall)
    (silent : generatedPackets actions = []) (stopped : next.started = false) :
    CallHistory cfg ts (log ++ actions) next := by
  rw [CallHistory, generatedPackets_append, silent, List.append_nil, stopped]
  exact History.abandoned history OpenCall.generated

/-- Passing on a packet generates that packet only. -/
theorem SendOutcome.entries {cfg : Config} {entry : QueueEntry} {clock : Clock}
    {slot after : Slot} {actions : List Action}
    (outcome : SendOutcome cfg entry clock slot after actions) :
    generatedEntries actions = [entry] := by
  cases outcome with
  | direct after actions unpaced sent =>
      cases sent with
      | busy | sent => rfl
  | full | queued => rfl

/-- A drain generates nothing. -/
theorem DrainOutcome.generated {cfg : Config} {clock : Clock} {slot after : Slot}
    {actions : List Action} (outcome : DrainOutcome cfg clock slot after actions) :
    generatedPackets actions = [] := by
  cases outcome with
  | empty => rfl
  | taken entry rest sent actions handle nextAt lockUntil first passed =>
      cases passed with
      | busy | sent => rfl

/-- The IPSC side generates nothing. -/
theorem generatedPackets_fromIpsc {actions : List Action}
    (fromIpsc : ∀ action ∈ actions, action.FromIpsc) : generatedPackets actions = [] :=
  generatedPackets_silent fun action member entry same => by
    have barred := fromIpsc action member
    rw [same] at barred
    exact barred

/-- A generated packet is the packet of the call's counters. -/
theorem generatePacket_entries (cfg : Config) (shared : Shared) (frame : HbpFrame)
    (callInfo rtpPt : UInt8) (gvPayload : Bytes) (burstType : UInt8) (clock : Clock) (slot : Slot) :
    generatedEntries
        (generatePacket cfg shared frame callInfo rtpPt gvPayload burstType clock slot).2 =
      [callEntry cfg shared frame callInfo rtpPt gvPayload burstType slot.inCall] :=
  (generatePacket_cases ..).entries

theorem generatePacket_generated (cfg : Config) (shared : Shared) (frame : HbpFrame)
    (callInfo rtpPt : UInt8) (gvPayload : Bytes) (burstType : UInt8) (clock : Clock) (slot : Slot) :
    generatedPackets
        (generatePacket cfg shared frame callInfo rtpPt gvPayload burstType clock slot).2 =
      [callPacket cfg shared frame callInfo rtpPt gvPayload slot.inCall] := by
  rw [generatedPackets, generatePacket_entries]
  rfl

/-- The start of a call generates its headers, numbered from the call's counters on. -/
theorem emitHbpIpscStart_opens (dmr : DmrUtils) (cfg : Config) (ts : Timeslot) {shared : Shared}
    (wide : shared.Wide) {frame : HbpFrame} (frameWide : frame.Wide) (clock : Clock) {slot : Slot}
    (unstarted : slot.inCall.started = false) :
    let start := emitHbpIpscStart dmr cfg shared frame clock slot
    start.1.inCall.started = true ∧
      OpenCall cfg ts start.1.inCall.counters (generatedPackets start.2) := by
  unfold emitHbpIpscStart
  rw [if_neg (by simp [unstarted])]
  refine ⟨rfl, ?_⟩
  have heads := emitHeads_invariant dmr cfg shared frame
    (truthyOr slot.inCall.lc (dmr.lcOpt ++ frame.dstGroup ++ frame.srcSub)) clock
    (fun idx log after => HeadRun idx (generatedPackets log) ∧
      Numbered after.inCall.streamId (generatedPackets log) after.inCall.rtpSeq after.inCall.rtpTs)
    ?_ cfg.headerCount 0 [] slot ⟨.nil, .nil _ _⟩
  · rw [Nat.zero_add, List.nil_append] at heads
    exact ⟨⟨_, [], (List.append_nil _).symm, heads.1, by simp⟩, heads.2⟩
  · rintro idx log before ⟨run, numbered⟩
    have fields := callPacket_fields cfg wide frameWide frame.callInfo
      (if idx = 0 then 0xdd else 0x5d) voiceHead
      (buildIpscVoicePayload dmr
        (truthyOr slot.inCall.lc (dmr.lcOpt ++ frame.dstGroup ++ frame.srcSub)) voiceHead)
      before.inCall
    simp only [generatedPackets_append, generatePacket_generated, generatePacket_inCall]
    exact ⟨.snoc run ⟨fields.burstType, fields.rtpPt⟩,
      .snoc numbered fields.stream fields.rtpSeq fields.rtpTs⟩

/-- The start of a call keeps the history. -/
theorem CallHistory.start {cfg : Config} {ts : Timeslot} {log : List Action} {slot : Slot}
    (history : CallHistory cfg ts log slot.inCall) (dmr : DmrUtils) {shared : Shared}
    (wide : shared.Wide) {frame : HbpFrame} (frameWide : frame.Wide) (clock : Clock) :
    let start := emitHbpIpscStart dmr cfg shared frame clock slot
    start.1.inCall.started = true ∧ CallHistory cfg ts (log ++ start.2) start.1.inCall := by
  cases started : slot.inCall.started with
  | true =>
      have same : emitHbpIpscStart dmr cfg shared frame clock slot = (slot, []) := by
        rw [emitHbpIpscStart, if_pos started]
      rw [same]
      exact ⟨started, history.kept rfl rfl rfl⟩
  | false =>
      obtain ⟨now, opened⟩ := emitHbpIpscStart_opens dmr cfg ts wide frameWide clock started
      refine ⟨now, ?_⟩
      rw [CallHistory, generatedPackets_append, if_pos now]
      rw [CallHistory, started] at history
      exact history.opened opened

/-- The payload of a voice burst starts with the timeslot's burst type. -/
theorem hbpVoicePayload_burst {dmr : DmrUtils} {frame : HbpFrame} {slot : Slot} {gvPayload : Bytes}
    (built : hbpVoicePayload dmr frame slot = .ok gvPayload) :
    ∃ rest, gvPayload = frame.slotBurst :: rest := by
  unfold hbpVoicePayload at built
  simp only at built
  split at built
  case isTrue => exact ⟨_, (Except.ok.inj built).symm⟩
  case isFalse =>
    split at built
    case isTrue => exact ⟨_, (Except.ok.inj built).symm⟩
    case isFalse =>
      split at built
      case isTrue => exact ⟨_, (Except.ok.inj built).symm⟩
      case isFalse =>
        split at built
        case h_1 => cases built
        case h_2 => exact ⟨_, (Except.ok.inj built).symm⟩

/-- A voice burst continues the history, after the start of the call if it has not started. -/
theorem CallHistory.continueVoice {cfg : Config} {ts : Timeslot} {log : List Action} {slot : Slot}
    (history : CallHistory cfg ts log slot.inCall) (dmr : DmrUtils) {shared : Shared}
    (wide : shared.Wide) {frame : HbpFrame} (frameWide : frame.Wide) (here : frame.timeslot = ts)
    (clock : Clock) :
    let voice := continueVoice dmr cfg frame clock shared slot
    CallHistory cfg ts (log ++ voice.2) voice.1.inCall := by
  obtain ⟨started, history⟩ := history.start dmr wide frameWide fun reading => clock (2 + reading)
  unfold Ipsc2Hbp.continueVoice
  simp only
  split
  case h_1 err failed =>
    rw [← List.append_assoc]
    exact history.kept rfl rfl rfl
  case h_2 gvPayload built =>
    obtain ⟨rest, rfl⟩ := hbpVoicePayload_burst built
    generalize emitHbpIpscStart dmr cfg shared frame (fun reading => clock (2 + reading)) slot = start
      at started history
    have fields := callPacket_fields cfg wide frameWide frame.callInfo 0x5d frame.slotBurst rest
      start.1.inCall
    have voice : IsVoicePacket ts
        (callPacket cfg shared frame frame.callInfo 0x5d (frame.slotBurst :: rest) start.1.inCall) :=
      ⟨by rw [fields.burstType, HbpFrame.slotBurst, here], fields.rtpPt⟩
    rw [CallHistory, if_pos started] at history
    rw [← List.append_assoc, CallHistory, generatedPackets_append, generatePacket_generated,
      generatePacket_inCall, if_pos (by exact started)]
    exact history.extended fun last opened =>
      opened.voice voice fields.stream fields.rtpSeq fields.rtpTs

/-- The terminator of a started call ends it. -/
theorem CallHistory.term {cfg : Config} {ts : Timeslot} {log : List Action} {slot : Slot}
    (history : CallHistory cfg ts log slot.inCall) (started : slot.inCall.started = true)
    (dmr : DmrUtils) {shared : Shared} (wide : shared.Wide) {frame : HbpFrame}
    (frameWide : frame.Wide) (clock : Clock) (now : Time) :
    CallHistory cfg ts (log ++ (sendHbpTerm dmr cfg frame clock shared slot).2)
      (endHbpCall cfg now (sendHbpTerm dmr cfg frame clock shared slot).1).inCall := by
  have fields := callPacket_fields cfg wide frameWide (frame.callInfo ||| endMsk) 0x5e voiceTerm
    (buildIpscVoicePayload dmr (truthyOr slot.inCall.lc (frameLc dmr frame)) voiceTerm) slot.inCall
  have marked : (frame.callInfo ||| endMsk) &&& endMsk = endMsk := by
    unfold HbpFrame.callInfo
    split <;> decide
  have generated := generatePacket_generated cfg shared frame (frame.callInfo ||| endMsk) 0x5e
    ([voiceTerm] ++ buildIpscVoicePayload dmr (truthyOr slot.inCall.lc (frameLc dmr frame)) voiceTerm)
    voiceTerm (fun reading => clock (2 + reading)) slot
  rw [CallHistory, if_pos started] at history
  rw [CallHistory, generatedPackets_append, if_neg (by exact Bool.false_ne_true)]
  change History _ _ (_ ++ generatedPackets (generatePacket ..).2) none
  rw [generated]
  exact history.ended fun last opened =>
    opened.term ⟨fields.burstType, fields.rtpPt, _, fields.callInfo, marked⟩ fields.stream
      fields.rtpSeq fields.rtpTs

/-- A frame of the timeslot keeps the history. -/
theorem CallHistory.hbpFrame {cfg : Config} {ts : Timeslot} {log : List Action} {slot : Slot}
    (history : CallHistory cfg ts log slot.inCall) (dmr : DmrUtils) {shared : Shared}
    (wide : shared.Wide) {frame : HbpFrame} (frameWide : frame.Wide) (here : frame.timeslot = ts)
    (draw : RtpDraw) (clock : Clock) :
    let result := hbpFrameReceived dmr cfg frame draw clock shared slot
    CallHistory cfg ts (log ++ result.2.2) result.2.1.inCall := by
  obtain ⟨blocked, lock, -, received⟩ := hbpFrameReceived_cases dmr cfg frame draw clock shared slot
  rw [received]
  cases blocked with
  | true => exact history.kept rfl rfl rfl
  | false =>
      simp only [Bool.false_eq_true, if_false]
      have stamped : CallHistory cfg ts log
          { slot with inCall.lastPkt := clock 0, lock := lock }.inCall := history
      have outcome := hbpAdmitted_cases dmr cfg frame draw clock shared
        { slot with inCall.lastPkt := clock 0, lock := lock }
      generalize ({ slot with inCall.lastPkt := clock 0, lock := lock } : Slot) = slot
        at stamped outcome
      generalize hbpAdmitted dmr cfg frame draw clock shared slot = result at outcome
      have opens : ∀ lc, CallHistory cfg ts log
          (openHbpCall dmr frame lc draw (clock 0) shared slot).2.inCall := fun lc => by
        have closed : CallHistory cfg ts (log ++ [])
          (openHbpCall dmr frame lc draw (clock 0) shared slot).2.inCall := stamped.stopped rfl rfl
        rwa [List.append_nil] at closed
      have wideAfter : ∀ lc, (openHbpCall dmr frame lc draw (clock 0) shared slot).1.Wide :=
        fun lc => ⟨wide.peerCallType, wide.peerCallCtrl⟩
      cases outcome with
      | foreignTerm | voiceIgnored | headMerged => exact stamped.kept rfl rfl rfl
      | headOpened opened head fresh waits recorded =>
          subst recorded
          exact stamped.stopped rfl rfl
      | headStarted opened head fresh atOnce recorded =>
          subst recorded
          exact ((opens (decodeHbpVoiceLc dmr frame.payload)).start dmr (wideAfter _) frameWide _).2
      | endedSilent => exact stamped.stopped rfl rfl
      | ended term started => exact stamped.term started dmr wide frameWide clock (clock 4)
      | voiceContinued => exact stamped.continueVoice dmr wide frameWide here clock
      | voiceOpened opened notHead notTerm closed flow recorded =>
          subst recorded
          exact (opens (frameLc dmr frame)).continueVoice dmr (wideAfter _) frameWide here clock

/-- Every step of a slot keeps the history of its calls. -/
theorem CallHistory.slotStep {cfg : Config} {ts : Timeslot} {log : List Action} {slot : Slot}
    (history : CallHistory cfg ts log slot.inCall) (dmr : DmrUtils) {shared : Shared}
    (wide : shared.Wide) {part : SlotEvent} (formed : part.Formed ts) :
    let result := slotStep dmr cfg ts shared slot part
    CallHistory cfg ts (log ++ result.2.2) result.2.1.inCall := by
  cases part with
  | ipscVoice connected data burstType urandom clock =>
      obtain ⟨inCall, -, fromIpsc⟩ := ipscVoiceReceived_inbound dmr cfg connected data ts burstType
        urandom clock shared slot
      exact history.kept (generatedPackets_fromIpsc fromIpsc) (congrArg InCall.started inCall)
        (congrArg InCall.counters inCall)
  | hbpFrame frame draw clock =>
      exact history.hbpFrame dmr wide formed.1 formed.2 draw clock
  | drain clock =>
      have outcome := drainHbpToIpscQueue_cases cfg clock slot
      exact history.kept outcome.generated (congrArg InCall.started outcome.inCall)
        (congrArg InCall.counters outcome.inCall)
  | checkCallTimeouts timeout clock =>
      rcases (checkCallTimeouts_frame cfg timeout clock ts slot).2 with same | reset
      · exact history.kept rfl (congrArg InCall.started same) (congrArg InCall.counters same)
      · exact history.stopped rfl (congrArg InCall.started reset)
  | peerLost => exact history.stopped rfl rfl
  | hbpDisconnected => exact history.stopped rfl rfl

/-- In every run the packets generated for a timeslot are a sequence of whole calls. -/
theorem generated_calls (dmr : DmrUtils) (cfg : Config) (events : List Event) (ts : Timeslot) :
    ∃ calls : List (List Bytes),
      generatedPackets (slotActions ts ((translator dmr cfg).run Translator.initial events).2) =
        calls.flatten ∧ ∀ call ∈ calls, GeneratedCall cfg ts call :=
  (slot_run_always dmr cfg ts (fun log slot => CallHistory cfg ts log slot.inCall)
    (fun _ _ _ _ wide formed history => history.slotStep dmr wide formed) events
    History.nil).split OpenCall.generated

end Ipsc2Hbp
