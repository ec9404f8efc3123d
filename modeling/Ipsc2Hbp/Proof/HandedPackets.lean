import Ipsc2Hbp.Proof.PacketFormat

namespace Ipsc2Hbp
open BigEndian

/-- A packet bears an ID behind its opcode. -/
structure Bears (id : Nat) (payload : Bytes) : Prop where
  long : 5 ≤ payload.length
  id : payload.extract 1 5 = natToBytes 4 id

theorem Bears.filled {id : Nat} {payload : Bytes} (bears : Bears id payload) : payload ≠ [] := by
  rintro rfl
  exact absurd bears.long (by decide)

theorem bears_cons (id : Nat) (opcode : UInt8) (rest : Bytes) :
    Bears id (opcode :: (natToBytes 4 id ++ rest)) where
  long := by simp
  id := extract_middle [opcode] rest rfl rfl (by rw [natToBytes_length])

/-- A GROUP_VOICE packet under this side's ID that shows the timeslot and the burst type of its entry. -/
structure QueueEntry.Made (cfg : Config) (ts : Timeslot) (entry : QueueEntry) : Prop where
  opcode : entry.packet[0]? = some groupVoice
  bears : Bears cfg.ipscSourceId entry.packet
  parsed : parseGroupVoiceMeta entry.packet = .ok (ts, entry.burstType)

/-- A packet of a frame: it names the frame's source and talkgroup, and it is a header of a header or
voice frame, the terminator of a terminator frame, or the voice of a voice frame. -/
structure QueueEntry.From (dmr : DmrUtils) (cfg : Config) (frame : HbpFrame) (entry : QueueEntry) :
    Prop where
  made : entry.Made cfg frame.timeslot
  srcSub : gvSrcSub entry.packet = frame.srcSub
  dstGroup : gvDstGroup entry.packet = frame.dstGroup
  kind : (entry.burstType = voiceHead ∧ frame.isTerm = false) ∨
    (entry.burstType = voiceTerm ∧ frame.TermOn frame.timeslot) ∨
    (entry.burstType = slotVoice frame.timeslot ∧ frame.VoiceOn frame.timeslot ∧
      extractAmbeFromDmrd dmr frame.payload <+: entry.packet.drop 33)

/-- A part of a step passes on new packets with a property only. -/
structure Feeds (property : QueueEntry → Prop) (before after : Slot) (actions : List Action) :
    Prop where
  queue : ∀ entry ∈ after.tx.queue, entry ∈ before.tx.queue ∨ property entry
  sent : ∀ entry, .sendToPeer entry ∈ actions → entry ∈ before.tx.queue ∨ property entry

section Feeds
variable {property : QueueEntry → Prop}

theorem Feeds.quiet {before after : Slot} {actions : List Action}
    (queue : ∀ entry ∈ after.tx.queue, entry ∈ before.tx.queue)
    (silent : ∀ entry, .sendToPeer entry ∉ actions) : Feeds property before after actions :=
  ⟨fun entry waits => .inl (queue entry waits), fun entry sent => absurd sent (silent entry)⟩

theorem Feeds.refl (slot : Slot) : Feeds property slot slot [] := .quiet (fun _ => id) (by simp)

theorem Feeds.trans {before middle after : Slot} {first second : List Action}
    (one : Feeds property before middle first) (two : Feeds property middle after second) :
    Feeds property before after (first ++ second) := by
  refine ⟨fun entry waits => ?_, fun entry sent => ?_⟩
  · exact (two.queue entry waits).elim (one.queue entry) .inr
  · rcases List.mem_append.mp sent with early | late
    · exact one.sent entry early
    · exact (two.sent entry late).elim (one.queue entry) .inr

/-- A packet with the property is passed on. -/
theorem SendOutcome.feeds {cfg : Config} {entry : QueueEntry} (has : property entry) {clock : Clock}
    {slot after : Slot} {actions : List Action}
    (outcome : SendOutcome cfg entry clock slot after actions) : Feeds property slot after actions := by
  cases outcome with
  | direct after actions unpaced sent =>
      cases sent with
      | busy => exact .quiet (fun _ => id) (by simp)
      | sent =>
          refine ⟨fun _ waits => .inl waits, fun other member => .inr ?_⟩
          obtain rfl : other = entry := by simpa using member
          exact has
  | full => exact .quiet (fun _ => id) (by simp)
  | queued =>
      refine ⟨fun other waits => ?_, by simp⟩
      rcases List.mem_append.mp waits with early | new
      · exact .inl early
      · rw [List.mem_singleton.mp new]
        exact .inr has

/-- A drain passes on what waits. -/
theorem DrainOutcome.feeds {cfg : Config} {clock : Clock} {slot after : Slot} {actions : List Action}
    (outcome : DrainOutcome cfg clock slot after actions) : Feeds property slot after actions := by
  cases outcome with
  | empty => exact .quiet (fun _ => id) (by simp)
  | taken entry rest sent actions handle nextAt lockUntil first passed =>
      have left : sent.tx.queue = rest := by rw [passed.tx]
      refine ⟨fun other waits => .inl ?_, fun other member => .inl ?_⟩
      · change other ∈ sent.tx.queue at waits
        rw [left] at waits
        exact first ▸ List.mem_cons_of_mem entry waits
      · cases passed with
        | busy => simp at member
        | sent =>
            obtain rfl : other = entry := by simpa using member
            exact first ▸ List.mem_cons_self

end Feeds

section Made
variable {dmr : DmrUtils} {cfg : Config} {shared : Shared} {frame : HbpFrame}

/-- The payload of a voice burst holds the frame's voice behind three bytes. -/
theorem hbpVoicePayload_ambe {slot : Slot} {gvPayload : Bytes}
    (built : hbpVoicePayload dmr frame slot = .ok gvPayload) :
    ∃ words mark rest, gvPayload =
      frame.slotBurst :: words :: mark :: (extractAmbeFromDmrd dmr frame.payload ++ rest) := by
  unfold hbpVoicePayload at built
  simp only at built
  split at built
  case isTrue => exact ⟨_, _, [], by rw [List.append_nil]; exact (Except.ok.inj built).symm⟩
  case isFalse =>
    split at built
    case isTrue =>
      simp only [List.append_assoc] at built
      exact ⟨_, _, _, (Except.ok.inj built).symm⟩
    case isFalse =>
      split at built
      case isTrue => exact ⟨_, _, _, (Except.ok.inj built).symm⟩
      case isFalse =>
        split at built
        case h_1 => cases built
        case h_2 =>
          simp only [List.append_assoc] at built
          exact ⟨_, _, _, (Except.ok.inj built).symm⟩

theorem callEntry_made (wide : shared.Wide) (frameWide : frame.Wide) {callInfo : UInt8}
    (timeslot : (if callInfo &&& tsCallMsk ≠ 0 then Timeslot.ts2 else .ts1) = frame.timeslot)
    (rtpPt burstType : UInt8) (rest : Bytes) (inCall : InCall) :
    (callEntry cfg shared frame callInfo rtpPt (burstType :: rest) burstType inCall).Made cfg
      frame.timeslot := by
  have fields := callPacket_fields cfg wide frameWide callInfo rtpPt burstType rest inCall
  have shape : ∃ behind, callPacket cfg shared frame callInfo rtpPt (burstType :: rest) inCall =
      groupVoice :: (natToBytes 4 cfg.ipscSourceId ++ behind) := by
    simp only [callPacket, buildGv, List.append_assoc, List.singleton_append]
    exact ⟨_, rfl⟩
  obtain ⟨behind, packet⟩ := shape
  have info : (callPacket cfg shared frame callInfo rtpPt (burstType :: rest) inCall)[gvCallInfoOff]? =
    some callInfo := fields.callInfo
  have burst : (callPacket cfg shared frame callInfo rtpPt (burstType :: rest)
    inCall)[gvBurstTypeOff]? = some burstType := fields.burstType
  constructor
  case opcode =>
    rw [callEntry, packet]
    rfl
  case bears =>
    rw [callEntry, packet]
    exact bears_cons _ _ _
  case parsed => simp only [callEntry, parseGroupVoiceMeta, info, burst, timeslot]

theorem callEntry_from (wide : shared.Wide) (frameWide : frame.Wide) {callInfo : UInt8}
    (timeslot : (if callInfo &&& tsCallMsk ≠ 0 then Timeslot.ts2 else .ts1) = frame.timeslot)
    (rtpPt burstType : UInt8) (rest : Bytes) (inCall : InCall)
    (kind : (burstType = voiceHead ∧ frame.isTerm = false) ∨
      (burstType = voiceTerm ∧ frame.TermOn frame.timeslot) ∨
      (burstType = frame.slotBurst ∧ frame.VoiceOn frame.timeslot ∧
        ∃ words mark more, rest = words :: mark :: (extractAmbeFromDmrd dmr frame.payload ++ more))) :
    (callEntry cfg shared frame callInfo rtpPt (burstType :: rest) burstType inCall).From dmr cfg
      frame := by
  obtain ⟨source, talkgroup⟩ := callPacket_parties cfg wide frameWide callInfo rtpPt
    (burstType :: rest) inCall
  refine ⟨callEntry_made wide frameWide timeslot rtpPt burstType rest inCall, source, talkgroup, ?_⟩
  rcases kind with head | term | ⟨voice, voiceOn, words, mark, more, rfl⟩
  · exact .inl head
  · exact .inr (.inl term)
  · obtain ⟨header, headerWide, packet⟩ := callPacket_behind cfg wide frameWide callInfo rtpPt
      (burstType :: words :: mark :: (extractAmbeFromDmrd dmr frame.payload ++ more)) inCall
    refine .inr (.inr ⟨voice, voiceOn, more, ?_⟩)
    have whole : callPacket cfg shared frame callInfo rtpPt
        (burstType :: words :: mark :: (extractAmbeFromDmrd dmr frame.payload ++ more)) inCall =
        (header ++ [burstType, words, mark]) ++ (extractAmbeFromDmrd dmr frame.payload ++ more) := by
      rw [packet, List.append_assoc]
      rfl
    rw [callEntry, whole, List.drop_left' (by rw [List.length_append, headerWide]; rfl)]

theorem generatePacket_feeds {property : QueueEntry → Prop} {callInfo rtpPt burstType : UInt8}
    {gvPayload : Bytes} {slot : Slot}
    (has : property (callEntry cfg shared frame callInfo rtpPt gvPayload burstType slot.inCall))
    (clock : Clock) :
    Feeds property slot
      (generatePacket cfg shared frame callInfo rtpPt gvPayload burstType clock slot).1
      (generatePacket cfg shared frame callInfo rtpPt gvPayload burstType clock slot).2 := by
  have passed :=
    (generatePacket_cases cfg shared frame callInfo rtpPt gvPayload burstType clock slot).feeds has
  exact ⟨passed.queue, passed.sent⟩

theorem emitHbpIpscStart_feeds (wide : shared.Wide) (frameWide : frame.Wide)
    (notTerm : frame.isTerm = false) (clock : Clock) (slot : Slot) :
    Feeds (QueueEntry.From dmr cfg frame) slot
      (emitHbpIpscStart dmr cfg shared frame clock slot).1
      (emitHbpIpscStart dmr cfg shared frame clock slot).2 := by
  unfold emitHbpIpscStart
  split
  case isTrue => exact .refl slot
  case isFalse =>
    have heads := emitHeads_invariant dmr cfg shared frame
      (truthyOr slot.inCall.lc (dmr.lcOpt ++ frame.dstGroup ++ frame.srcSub)) clock
      (fun _ actions after => Feeds (QueueEntry.From dmr cfg frame) slot after actions)
      (fun _ _ _ before => before.trans (generatePacket_feeds (callEntry_from wide frameWide
        frame.callInfo_timeslot.1 _ voiceHead (buildIpscVoicePayload dmr _ voiceHead) _
        (.inl ⟨rfl, notTerm⟩)) _))
      cfg.headerCount 0 [] slot (.refl slot)
    exact ⟨heads.queue, heads.sent⟩

theorem continueVoice_feeds (wide : shared.Wide) (frameWide : frame.Wide)
    (voiceOn : frame.VoiceOn frame.timeslot) (clock : Clock) (slot : Slot) :
    Feeds (QueueEntry.From dmr cfg frame) slot (continueVoice dmr cfg frame clock shared slot).1
      (continueVoice dmr cfg frame clock shared slot).2 := by
  have start : Feeds (QueueEntry.From dmr cfg frame) slot
      (emitHbpIpscStart dmr cfg shared frame (fun reading => clock (2 + reading)) slot).1
      (emitHbpIpscStart dmr cfg shared frame (fun reading => clock (2 + reading)) slot).2 :=
    emitHbpIpscStart_feeds wide frameWide voiceOn.isTerm _ slot
  unfold continueVoice
  simp only
  split
  case h_1 err failed => exact start.trans (.quiet (fun _ => id) (by simp))
  case h_2 gvPayload built =>
    obtain ⟨words, mark, rest, rfl⟩ := hbpVoicePayload_ambe built
    have voice : Feeds (QueueEntry.From dmr cfg frame) _ _ _ :=
      generatePacket_feeds (callEntry_from wide frameWide frame.callInfo_timeslot.1 0x5d frame.slotBurst
        (words :: mark :: (extractAmbeFromDmrd dmr frame.payload ++ rest))
        (emitHbpIpscStart dmr cfg shared frame (fun reading => clock (2 + reading)) slot).1.inCall
        (.inr (.inr ⟨rfl, voiceOn, words, mark, rest, rfl⟩))) fun reading => clock (12 + reading)
    exact start.trans voice

/-- What an admitted frame passes on. -/
theorem HbpOutcome.feeds (wide : shared.Wide) (frameWide : frame.Wide) {draw : RtpDraw}
    {clock : Clock} {slot : Slot} {result : Shared × Slot × List Action}
    (outcome : HbpOutcome dmr cfg frame draw clock shared slot result) :
    Feeds (QueueEntry.From dmr cfg frame) slot result.2.1 result.2.2 := by
  have opened : ∀ lc, (openHbpCall dmr frame lc draw (clock 0) shared slot).1.Wide :=
    fun _ => ⟨wide.peerCallType, wide.peerCallCtrl⟩
  have from_opened {lc : Bytes} {after : Slot} {actions : List Action}
      (part : Feeds (QueueEntry.From dmr cfg frame)
        (openHbpCall dmr frame lc draw (clock 0) shared slot).2 after actions) :
      Feeds (QueueEntry.From dmr cfg frame) slot after actions := ⟨part.queue, part.sent⟩
  cases outcome with
  | foreignTerm | voiceIgnored | headMerged | endedSilent => exact .quiet (fun _ => id) (by simp)
  | headOpened opened head fresh waits recorded =>
      subst recorded
      exact from_opened (.refl _)
  | headStarted _ head fresh atOnce recorded =>
      subst recorded
      exact from_opened (emitHbpIpscStart_feeds (opened _) frameWide
        (HbpFrame.isTerm_of_isHead head) _ _)
  | ended term started =>
      have notHead : frame.isHead = false := by
        by_contra head
        rw [HbpFrame.isTerm_of_isHead (by simpa using head)] at term
        cases term
      have sent : Feeds (QueueEntry.From dmr cfg frame) slot
          (sendHbpTerm dmr cfg frame clock shared slot).1
          (sendHbpTerm dmr cfg frame clock shared slot).2 :=
        generatePacket_feeds (callEntry_from wide frameWide frame.callInfo_timeslot.2 0x5e voiceTerm
          (buildIpscVoicePayload dmr _ voiceTerm) _ (.inr (.inl ⟨rfl, rfl, notHead, term⟩))) _
      exact ⟨sent.queue, sent.sent⟩
  | voiceContinued notHead notTerm active =>
      exact continueVoice_feeds wide frameWide ⟨rfl, notHead, notTerm⟩ clock slot
  | voiceOpened _ notHead notTerm closed flow recorded =>
      subst recorded
      exact from_opened (continueVoice_feeds (opened _) frameWide ⟨rfl, notHead, notTerm⟩ clock _)

/-- A packet of the frame that a callback brings. -/
def SlotEvent.Brings (dmr : DmrUtils) (cfg : Config) (part : SlotEvent) (entry : QueueEntry) : Prop :=
  ∃ frame draw clock, part = .hbpFrame frame draw clock ∧ entry.From dmr cfg frame

/-- What a callback passes on towards IPSC on its timeslot. -/
theorem slotStep_feeds (dmr : DmrUtils) (cfg : Config) {ts : Timeslot} (wide : shared.Wide)
    (slot : Slot) {part : SlotEvent} (formed : part.Formed ts) :
    Feeds (part.Brings dmr cfg) slot (slotStep dmr cfg ts shared slot part).2.1
      (slotStep dmr cfg ts shared slot part).2.2 := by
  cases part with
  | ipscVoice connected data burstType urandom clock =>
      obtain ⟨-, tx, fromIpsc⟩ := ipscVoiceReceived_inbound dmr cfg connected data ts burstType
        urandom clock shared slot
      exact .quiet (fun entry waits => by rwa [slotStep, tx] at waits)
        fun entry sent => fromIpsc _ sent
  | hbpFrame frame draw clock =>
      obtain ⟨frameWide, rfl⟩ := formed
      obtain ⟨blocked, lock, -, received⟩ :=
        hbpFrameReceived_cases dmr cfg frame draw clock shared slot
      simp only [slotStep, received]
      cases blocked with
      | true => exact .quiet (fun _ => id) (by simp)
      | false =>
          have outcome := (hbpAdmitted_cases dmr cfg frame draw clock shared
            { slot with inCall.lastPkt := clock 0, lock := lock }).feeds wide frameWide
          have brings (entry : QueueEntry) (own : entry.From dmr cfg frame) :
              SlotEvent.Brings dmr cfg (.hbpFrame frame draw clock) entry :=
            ⟨frame, draw, clock, rfl, own⟩
          exact ⟨fun entry waits => (outcome.queue entry waits).imp_right (brings entry),
            fun entry sent => (outcome.sent entry sent).imp_right (brings entry)⟩
  | drain clock => exact (drainHbpToIpscQueue_cases cfg clock slot).feeds
  | checkCallTimeouts timeout clock =>
      exact .quiet (fun entry waits => by rwa [slotStep, checkCallTimeouts_tx] at waits) (by simp [slotStep])
  | peerLost => exact .quiet (fun _ waits => by cases waits) (by simp [slotStep])
  | hbpDisconnected => exact .quiet (fun _ waits => by cases waits) (by simp [slotStep])

/-- A packet of a DMRD frame that was accepted on the timeslot. -/
def QueueEntry.FromOne (dmr : DmrUtils) (cfg : Config) (events : List Event) (ts : Timeslot)
    (entry : QueueEntry) : Prop :=
  ∃ registered dmrd draw clock frame, .hbpVoice registered dmrd draw clock ∈ events ∧
    acceptedFrame registered dmrd = some frame ∧ frame.timeslot = ts ∧ entry.From dmr cfg frame

/-- Every packet that a run hands over on a timeslot comes from one of its DMRD frames. -/
theorem handed_from (dmr : DmrUtils) (cfg : Config) (events : List Event) {ts : Timeslot}
    {entry : QueueEntry}
    (handed : .slot ts (.sendToPeer entry) ∈
      ((translator dmr cfg).run Translator.initial events).2) :
    entry.FromOne dmr cfg events ts := by
  have here : SlotMeets dmr cfg ts (fun _ _ part => True ∧ ∃ event ∈ events, event.AtSlot ts part)
      Translator.initial events :=
    (slotMeets_of_forall dmr cfg ts _ (fun _ _ _ => trivial) _ events).and_events
      fun event member part seen => ⟨event, member, Event.atSlot_cases seen⟩
  have always := slot_run_invariant dmr cfg ts _
    (fun log slot => (∀ entry ∈ slot.tx.queue, entry.FromOne dmr cfg events ts) ∧
      ∀ entry, .sendToPeer entry ∈ log → entry.FromOne dmr cfg events ts)
    (fun log shared slot part wide formed known kept => by
      obtain ⟨-, event, member, seen⟩ := known
      obtain ⟨waiting, before⟩ := kept
      have step := slotStep_feeds dmr cfg wide slot formed
      have brought (entry : QueueEntry) (brings : part.Brings dmr cfg entry) :
          entry.FromOne dmr cfg events ts := by
        obtain ⟨frame, draw, clock, rfl, own⟩ := brings
        cases seen with
        | hbpVoice registered dmrd frame draw clock accepted here =>
            exact ⟨registered, dmrd, draw, clock, frame, member, accepted, here, own⟩
      refine ⟨fun entry waits => (step.queue entry waits).elim (waiting entry) (brought entry), ?_⟩
      intro entry sent
      rcases List.mem_append.mp sent with early | now
      · exact before entry early
      · exact (step.sent entry now).elim (waiting entry) (brought entry))
    Translator.initial events Translator.initial_wide here
    ⟨fun _ waits => (List.not_mem_nil waits).elim, by simp⟩
  refine always.2 entry (List.mem_filterMap.mpr ⟨_, handed, ?_⟩)
  simp

/-- Every packet that a run hands over on a timeslot is a GROUP_VOICE packet of this side for it. -/
theorem handed_made (dmr : DmrUtils) (cfg : Config) (events : List Event) {ts : Timeslot}
    {entry : QueueEntry}
    (handed : .slot ts (.sendToPeer entry) ∈
      ((translator dmr cfg).run Translator.initial events).2) : entry.Made cfg ts := by
  obtain ⟨-, -, -, -, frame, -, -, rfl, own⟩ := handed_from dmr cfg events handed
  exact own.made

end Made

end Ipsc2Hbp
