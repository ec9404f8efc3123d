import Ipsc2Hbp.Proof.CallBursts
import Ipsc2Hbp.Proof.GeneratedStreams

namespace Ipsc2Hbp
open BigEndian

/-- Only IPSC packets have come, so that nothing on the timeslot stops the next one. -/
structure IpscOnly (slot : Slot) : Prop where
  lock : slot.lock.OpenFor .ipsc
  ignore : slot.reflect.ignore = fun _ => none
  started : slot.inCall.started = false

/-- No packet is taken for a reflection while no inbound call has started. -/
theorem shouldSuppressIpscReflection_open (cfg : Config) (ipscStream : Option UInt8)
    (burstType : UInt8) (srcSub dstGroup : Bytes) (now : Time) {slot : Slot} (only : IpscOnly slot) :
    ∃ recent, shouldSuppressIpscReflection cfg ipscStream burstType srcSub dstGroup now slot =
      (false, { slot with reflect := ⟨recent, fun _ => none⟩ }) := by
  have kept : slot = { slot with reflect := ⟨slot.reflect.recent, fun _ => none⟩ } := by
    rw [← only.ignore]
  unfold shouldSuppressIpscReflection
  split
  case isTrue => exact ⟨slot.reflect.recent, congrArg _ kept⟩
  case isFalse =>
    split
    case h_1 => exact ⟨slot.reflect.recent, congrArg _ kept⟩
    case h_2 streamByte =>
      simp only [only.ignore, only.started, Option.filter_none, Option.isSome_none,
        Bool.false_eq_true, if_false, Bool.not_false, if_true, ite_self]
      exact ⟨_, rfl⟩

/-- Every IPSC packet passes the gate. -/
theorem ipscGate_open {cfg : Config} (flow : cfg.legacyFlow = false) {slot : Slot}
    (only : IpscOnly slot) (data : Bytes) (burstType : UInt8) (clock : Clock) :
    ∃ passed, ipscGate cfg data burstType clock slot = (false, passed) ∧ IpscOnly passed ∧
      passed.outCall = { slot.outCall with lastPkt := clock 0 } := by
  have prelude : legacyPrelude cfg data burstType clock slot =
      (false, { slot with outCall.lastPkt := clock 0 }) := by
    simp only [legacyPrelude, legacyIpscStreamDrop, flow]
  obtain ⟨lock, admitted, held⟩ := callLockBlocks_open cfg { slot with outCall.lastPkt := clock 0 }
    (.ipsc data[gvIpscSeqOff]?) only.lock (gvSrcSub data) (gvDstGroup data) (burstType = voiceTerm)
    (clock 2)
  have heard : IpscOnly { slot with outCall.lastPkt := clock 0, lock := lock } :=
    ⟨held, only.ignore, only.started⟩
  obtain ⟨recent, judged⟩ := shouldSuppressIpscReflection_open cfg data[gvIpscSeqOff]? burstType
    (gvSrcSub data) (gvDstGroup data) (clock 3) heard
  unfold ipscGate
  simp only [prelude, admitted, judged, Bool.false_eq_true, if_false]
  exact ⟨_, rfl, ⟨held, rfl, only.started⟩, rfl⟩

/-- The branches of an admitted packet, each on its own kind of burst. -/
theorem sendBurst_head (dmr : DmrUtils) {cfg : Config} (flow : cfg.legacyFlow = false) (ts : Timeslot)
    (data : Bytes) (urandom : StreamId) (now : Time) (shared : Shared) {slot : Slot} {streamId : Bytes}
    (current : slot.outCall.streamId = none ∧ streamId = urandom.val ∨
      slot.outCall.streamId = some streamId) :
    let sent := sendBurst cfg ts (gvSrcSub data) (gvDstGroup data) voiceHead now shared
      (burstOf dmr cfg data (gvSrcSub data) (gvDstGroup data) voiceHead urandom slot)
    sent.2.1 = { slot with outCall := slot.outCall.withHead dmr data streamId } ∧
      sentDmrd sent.2.2 = [headFrame dmr cfg ts data streamId shared.outSeq] := by
  simp only [burstOf, if_true, headBurst]
  rcases current with ⟨closed, rfl⟩ | opened
  · simp only [closed]
    rw [sendBurst_frame rfl, flow]
    exact ⟨rfl, rfl⟩
  · simp only [opened, flow, Bool.false_eq_true, if_false]
    rw [sendBurst_frame rfl, flow]
    exact ⟨rfl, rfl⟩

theorem sendBurst_voice (dmr : DmrUtils) {cfg : Config} (flow : cfg.legacyFlow = false) (ts : Timeslot)
    {data : Bytes} (long : 52 ≤ data.length) {burstType : UInt8} (voice : IsVoice burstType)
    (urandom : StreamId) (now : Time) (shared : Shared) {slot : Slot} {streamId : Bytes}
    (opened : slot.outCall.streamId = some streamId) :
    let sent := sendBurst cfg ts (gvSrcSub data) (gvDstGroup data) burstType now shared
      (burstOf dmr cfg data (gvSrcSub data) (gvDstGroup data) burstType urandom slot)
    sent.2.1 = { slot with outCall.framePos := slot.outCall.framePos + 1 } ∧
      sentDmrd sent.2.2 = [voiceFrame dmr cfg ts data (slot.outCall.framePos % 6) slot.outCall.embLc
        streamId shared.outSeq] := by
  have still : { slot with outCall.framePos := slot.outCall.framePos + 1 }.outCall.streamId =
      some streamId := opened
  have burst : burstOf dmr cfg data (gvSrcSub data) (gvDstGroup data) burstType urandom slot =
      .frame { slot with outCall.framePos := slot.outCall.framePos + 1 } []
        (voicePayload dmr (data.extract 33 52)
          (buildEmbed dmr (slot.outCall.framePos % 6) slot.outCall.embLc))
        (voiceFlags (slot.outCall.framePos % 6)) := by
    simp only [burstOf, if_neg voice.1, if_neg voice.2, voiceBurst, opened, openVoiceBurst,
      if_neg (Nat.not_lt_of_le long), voiceFlags]
  simp only
  rw [burst, sendBurst_frame still, if_neg voice.2, flow]
  exact ⟨rfl, rfl⟩

theorem sendBurst_term (dmr : DmrUtils) {cfg : Config} (flow : cfg.legacyFlow = false) (ts : Timeslot)
    (data : Bytes) (urandom : StreamId) (now : Time) (shared : Shared) {slot : Slot} {streamId : Bytes}
    (opened : slot.outCall.streamId = some streamId) :
    sentDmrd (sendBurst cfg ts (gvSrcSub data) (gvDstGroup data) voiceTerm now shared
      (burstOf dmr cfg data (gvSrcSub data) (gvDstGroup data) voiceTerm urandom slot)).2.2 =
      [termFrame dmr cfg ts data (truthyOr slot.outCall.lc (gvLc dmr data)) streamId
        shared.outSeq] := by
  have apart : voiceTerm ≠ voiceHead := by decide
  simp only [burstOf, if_neg apart, if_true, termBurst, opened]
  rw [sendBurst_frame opened, flow]
  rfl

/-- A packet of a call, with what its callback reads from outside: it names the call's timeslot,
source and talkgroup. -/
structure CallPacket (ts : Timeslot) (srcSub dstGroup : Bytes) where
  data : Bytes
  burstType : UInt8
  urandom : StreamId
  clock : Clock
  parsed : parseGroupVoiceMeta data = .ok (ts, burstType)
  source : gvSrcSub data = srcSub
  talkgroup : gvDstGroup data = dstGroup

namespace CallPacket
variable {ts : Timeslot} {srcSub dstGroup : Bytes}

/-- The callback of a packet while HBP is connected. -/
def event (packet : CallPacket ts srcSub dstGroup) : Event :=
  .ipscVoice true packet.data ts packet.burstType packet.urandom packet.clock

theorem long (packet : CallPacket ts srcSub dstGroup) : 31 ≤ packet.data.length :=
  parseGroupVoiceMeta_long packet.parsed

end CallPacket

/-- The LC of a group call. -/
def callLc (dmr : DmrUtils) (srcSub dstGroup : Bytes) : Bytes := dmr.lcOpt ++ dstGroup ++ srcSub

theorem CallPacket.lc {ts : Timeslot} {srcSub dstGroup : Bytes} (packet : CallPacket ts srcSub dstGroup)
    (dmr : DmrUtils) : gvLc dmr packet.data = callLc dmr srcSub dstGroup := by
  rw [gvLc, packet.source, packet.talkgroup, callLc]

/-- The bursts of a call: its header, a voice burst with 19 voice bytes, and its terminator. -/
def callHead (dmr : DmrUtils) (ts : Timeslot) (srcSub dstGroup : Bytes) : CallBurst :=
  ⟨ts, voiceHead, srcSub, dstGroup, callLc dmr srcSub dstGroup⟩

def callVoice (ts : Timeslot) (srcSub dstGroup ambe : Bytes) : CallBurst :=
  ⟨ts, slotVoice ts, srcSub, dstGroup, ambe⟩

def callTerm (ts : Timeslot) (srcSub dstGroup lc : Bytes) : CallBurst :=
  ⟨ts, voiceTerm, srcSub, dstGroup, lc⟩

/-- The voice of a packet with zeros between and behind its three frames. -/
def CallPacket.voice {ts : Timeslot} {srcSub dstGroup : Bytes} (packet : CallPacket ts srcSub dstGroup) :
    Bytes := packVoice (voiceFrames (packet.data.extract 33 52))

section Steps
variable {dmr : DmrUtils} (documented : dmr.Documented) {cfg : Config} (flow : cfg.legacyFlow = false)
  {ts : Timeslot} {srcSub dstGroup streamId : Bytes} (packet : CallPacket ts srcSub dstGroup)
  (shared : Shared) {slot : Slot}
include documented flow

/-- A header opens the stream or repeats its header. -/
theorem CallPacket.head_forwarded (inverts : dmr.Inverts) (head : packet.burstType = voiceHead)
    (only : IpscOnly slot)
    (current : slot.outCall.streamId = none ∧ streamId = packet.urandom.val ∨
      slot.outCall.Open dmr streamId (callLc dmr srcSub dstGroup)) :
    let result := ipscVoiceReceived dmr cfg true packet.data ts packet.burstType packet.urandom
      packet.clock shared slot
    IpscOnly result.2.1 ∧ result.2.1.outCall.Open dmr streamId (callLc dmr srcSub dstGroup) ∧
      (sentDmrd result.2.2).map (readDmrd dmr) =
        [⟨true, streamId, callHead dmr ts srcSub dstGroup⟩] := by
  obtain ⟨passed, opened, still, outCall⟩ := ipscGate_open flow only packet.data packet.burstType
    packet.clock
  have wide : streamId.length = 4 := by
    rcases current with ⟨-, rfl⟩ | call
    · exact packet.urandom.property
    · exact call.wide
  have lcWide : (callLc dmr srcSub dstGroup).length = 9 := by
    rw [← packet.lc]
    exact gvLc_length documented packet.long
  have known : passed.outCall.streamId = none ∧ streamId = packet.urandom.val ∨
      passed.outCall.streamId = some streamId := by
    rw [outCall]
    exact current.imp id fun call => call.current
  obtain ⟨after, sent⟩ := sendBurst_head dmr flow ts packet.data packet.urandom (packet.clock 5)
    (shared.learn packet.data) known
  have reading := (headFrame_fields documented cfg ts packet.long wide
    (shared.learn packet.data).outSeq).reading dmr
  rw [HbpFrame.HeadOn.burst (HbpFrame.headOn rfl)] at reading
  simp only [packet.lc, packet.source, packet.talkgroup,
    decodeHbpVoiceLc_lcPayload documented inverts lcWide] at reading
  rw [ipscVoiceReceived_eq, opened, if_neg Bool.false_ne_true]
  rw [head]
  simp only [after, sent]
  refine ⟨⟨still.lock, still.ignore, still.started⟩, ?_, ?_⟩
  · exact ⟨rfl, by rw [← packet.lc]; rfl, by rw [← packet.lc]; rfl, wide, lcWide⟩
  · exact congrArg (fun reading => [reading]) reading

/-- A voice packet of an open stream is converted. -/
theorem CallPacket.voice_forwarded (inverts : dmr.Inverts) (voice : IsVoice packet.burstType)
    (long : 52 ≤ packet.data.length) (only : IpscOnly slot)
    (call : slot.outCall.Open dmr streamId (callLc dmr srcSub dstGroup)) :
    let result := ipscVoiceReceived dmr cfg true packet.data ts packet.burstType packet.urandom
      packet.clock shared slot
    IpscOnly result.2.1 ∧ result.2.1.outCall.Open dmr streamId (callLc dmr srcSub dstGroup) ∧
      (sentDmrd result.2.2).map (readDmrd dmr) =
        [⟨true, streamId, callVoice ts srcSub dstGroup packet.voice⟩] := by
  obtain ⟨passed, opened, still, outCall⟩ := ipscGate_open flow only packet.data packet.burstType
    packet.clock
  have kept : passed.outCall.Open dmr streamId (callLc dmr srcSub dstGroup) := by
    rw [outCall]
    exact ⟨call.current, call.recorded, call.fragments, call.wide, call.lcWide⟩
  obtain ⟨after, sent⟩ := sendBurst_voice dmr flow ts long voice packet.urandom (packet.clock 5)
    (shared.learn packet.data) kept.current
  have small : passed.outCall.framePos % 6 < 6 := Nat.mod_lt _ (by decide)
  rw [kept.fragments] at sent
  have reading := (voiceFrame_fields documented cfg ts long call.lcWide call.wide
    (passed.outCall.framePos % 6) (shared.learn packet.data).outSeq).reading dmr
  rw [HbpFrame.VoiceOn.burst (HbpFrame.voiceOn small rfl)] at reading
  simp only [packet.source, packet.talkgroup, extractAmbeFromDmrd_voicePayload documented inverts
    (voiceBytes_length long) (buildEmbed_length documented call.lcWide _)] at reading
  rw [ipscVoiceReceived_eq, opened, if_neg Bool.false_ne_true]
  simp only [after, sent]
  refine ⟨⟨still.lock, still.ignore, still.started⟩, ?_, ?_⟩
  · exact ⟨kept.current, kept.recorded, kept.fragments, kept.wide, kept.lcWide⟩
  · exact congrArg (fun reading => [reading]) reading

/-- A terminator ends an open stream. -/
theorem CallPacket.term_forwarded (term : packet.burstType = voiceTerm) (only : IpscOnly slot)
    (call : slot.outCall.Open dmr streamId (callLc dmr srcSub dstGroup)) :
    (sentDmrd (ipscVoiceReceived dmr cfg true packet.data ts packet.burstType packet.urandom
        packet.clock shared slot).2.2).map (readDmrd dmr) =
      [⟨true, streamId, callTerm ts srcSub dstGroup []⟩] := by
  obtain ⟨passed, opened, still, outCall⟩ := ipscGate_open flow only packet.data packet.burstType
    packet.clock
  have current : passed.outCall.streamId = some streamId := by
    rw [outCall]
    exact call.current
  have recorded : passed.outCall.lc = some (callLc dmr srcSub dstGroup) := by
    rw [outCall]
    exact call.recorded
  have sent := sendBurst_term dmr flow ts packet.data packet.urandom (packet.clock 5)
    (shared.learn packet.data) current
  rw [recorded, truthyOr_some call.lcWide] at sent
  have reading := (termFrame_fields documented cfg ts packet.long call.lcWide call.wide
    (shared.learn packet.data).outSeq).reading dmr
  rw [HbpFrame.TermOn.burst (HbpFrame.termOn rfl)] at reading
  simp only [packet.source, packet.talkgroup] at reading
  rw [ipscVoiceReceived_eq, opened, if_neg Bool.false_ne_true, term, sent]
  exact congrArg (fun reading => [reading]) reading

end Steps

/-- The DMRD frames that a log of the translator sends, in order. -/
def sentFrames (log : List Output) : List Bytes :=
  log.filterMap fun output => match output with
    | .slot _ (.sendDmrd dmrd) => some dmrd
    | _ => none

/-- The frames of one handler. -/
theorem sentFrames_slot (ts : Timeslot) (actions : List Action) :
    sentFrames (actions.map (Output.slot ts)) = sentDmrd actions := by
  unfold sentFrames sentDmrd
  rw [List.filterMap_map]
  congr 1
  funext action
  cases action <;> rfl

/-- A whole call of IPSC packets: one or more headers, one or more voice packets that hold the
19 voice bytes, and a terminator. -/
structure WholeCall (ts : Timeslot) (srcSub dstGroup : Bytes) where
  head : CallPacket ts srcSub dstGroup
  repeats : List (CallPacket ts srcSub dstGroup)
  voices : List (CallPacket ts srcSub dstGroup)
  term : CallPacket ts srcSub dstGroup
  head_type : head.burstType = voiceHead
  repeats_type : ∀ packet ∈ repeats, packet.burstType = voiceHead
  voices_some : voices ≠ []
  voices_type : ∀ packet ∈ voices, packet.burstType = slot1Voice ∨ packet.burstType = slot2Voice
  voices_long : ∀ packet ∈ voices, 52 ≤ packet.data.length
  term_type : term.burstType = voiceTerm

/-- The callbacks of a call in order. -/
def WholeCall.events {ts : Timeslot} {srcSub dstGroup : Bytes} (call : WholeCall ts srcSub dstGroup) :
    List Event :=
  [call.head.event] ++ (call.repeats.map CallPacket.event ++ (call.voices.map CallPacket.event ++
    [call.term.event]))

/-- The bursts that the frames of a log carry. -/
def frameReadings (dmr : DmrUtils) (log : List Output) : List DmrdReading :=
  (sentFrames log).map (readDmrd dmr)

theorem frameReadings_append (dmr : DmrUtils) (first second : List Output) :
    frameReadings dmr (first ++ second) = frameReadings dmr first ++ frameReadings dmr second := by
  simp only [frameReadings, sentFrames, List.filterMap_append, List.map_append]

/-- A packet's callback works on the call's timeslot. -/
theorem CallPacket.step_eq {ts : Timeslot} {srcSub dstGroup : Bytes}
    (packet : CallPacket ts srcSub dstGroup) (dmr : DmrUtils) (cfg : Config) (tr : Translator) :
    let result := ipscVoiceReceived dmr cfg true packet.data ts packet.burstType packet.urandom
      packet.clock tr.shared (tr.slot ts)
    ((translator dmr cfg).step tr packet.event).1.slot ts = result.2.1 ∧
      frameReadings dmr ((translator dmr cfg).step tr packet.event).2 =
        (sentDmrd result.2.2).map (readDmrd dmr) := by
  refine ⟨Function.update_self .., ?_⟩
  rw [← sentFrames_slot ts]
  rfl

/-- The timeslot is in the middle of a call that only IPSC packets have made. -/
structure Forwarding (dmr : DmrUtils) (ts : Timeslot) (streamId lc : Bytes) (tr : Translator) : Prop where
  only : IpscOnly (tr.slot ts)
  call : (tr.slot ts).outCall.Open dmr streamId lc

/-- A repeated header keeps the stream. -/
theorem Forwarding.head {dmr : DmrUtils} {cfg : Config} {ts : Timeslot} {srcSub dstGroup streamId : Bytes}
    {tr : Translator} (forwarding : Forwarding dmr ts streamId (callLc dmr srcSub dstGroup) tr)
    (documented : dmr.Documented) (inverts : dmr.Inverts) (flow : cfg.legacyFlow = false)
    {packet : CallPacket ts srcSub dstGroup} (head : packet.burstType = voiceHead) :
    Forwarding dmr ts streamId (callLc dmr srcSub dstGroup)
        ((translator dmr cfg).step tr packet.event).1 ∧
      frameReadings dmr ((translator dmr cfg).step tr packet.event).2 =
        [⟨true, streamId, callHead dmr ts srcSub dstGroup⟩] := by
  obtain ⟨slot, sent⟩ := packet.step_eq dmr cfg tr
  obtain ⟨only, opened, reading⟩ := packet.head_forwarded documented flow tr.shared inverts head
    forwarding.only (.inr forwarding.call)
  exact ⟨⟨by rwa [slot], by rwa [slot]⟩, sent.trans reading⟩

/-- A voice packet keeps the stream. -/
theorem Forwarding.voice {dmr : DmrUtils} {cfg : Config} {ts : Timeslot} {srcSub dstGroup streamId : Bytes}
    {tr : Translator} (forwarding : Forwarding dmr ts streamId (callLc dmr srcSub dstGroup) tr)
    (documented : dmr.Documented) (inverts : dmr.Inverts) (flow : cfg.legacyFlow = false)
    {packet : CallPacket ts srcSub dstGroup} (voice : IsVoice packet.burstType)
    (long : 52 ≤ packet.data.length) :
    Forwarding dmr ts streamId (callLc dmr srcSub dstGroup)
        ((translator dmr cfg).step tr packet.event).1 ∧
      frameReadings dmr ((translator dmr cfg).step tr packet.event).2 =
        [⟨true, streamId, callVoice ts srcSub dstGroup packet.voice⟩] := by
  obtain ⟨slot, sent⟩ := packet.step_eq dmr cfg tr
  obtain ⟨only, opened, reading⟩ := packet.voice_forwarded documented flow tr.shared inverts voice long
    forwarding.only forwarding.call
  exact ⟨⟨by rwa [slot], by rwa [slot]⟩, sent.trans reading⟩

theorem isVoice_slotVoice {burstType : UInt8} (slots : burstType = slot1Voice ∨ burstType = slot2Voice) :
    IsVoice burstType := by
  rcases slots with rfl | rfl <;> exact ⟨by decide, by decide⟩

/-- A fresh translator sends one frame for each packet of a call, all on one stream. -/
theorem call_forwarded {dmr : DmrUtils} (documented : dmr.Documented) (inverts : dmr.Inverts)
    {cfg : Config} (flow : cfg.legacyFlow = false) {ts : Timeslot} {srcSub dstGroup : Bytes}
    (call : WholeCall ts srcSub dstGroup) :
    let stream := call.head.urandom.val
    frameReadings dmr ((translator dmr cfg).run Translator.initial call.events).2 =
      ⟨true, stream, callHead dmr ts srcSub dstGroup⟩ ::
      (call.repeats.map (fun _ => ⟨true, stream, callHead dmr ts srcSub dstGroup⟩) ++
      (call.voices.map (fun packet => ⟨true, stream, callVoice ts srcSub dstGroup packet.voice⟩) ++
      [⟨true, stream, callTerm ts srcSub dstGroup []⟩])) := by
  intro stream
  have append := frameReadings_append dmr
  have fresh : IpscOnly (Translator.initial.slot ts) := ⟨CallLock.openFor_initial .ipsc, rfl, rfl⟩
  -- the first header opens the stream
  obtain ⟨slot, sent⟩ := call.head.step_eq dmr cfg Translator.initial
  obtain ⟨only, opened, heads⟩ := call.head.head_forwarded documented flow Translator.initial.shared
    inverts call.head_type fresh (.inl ⟨rfl, rfl⟩)
  rw [← slot] at only opened
  rw [← sent] at heads
  have start : Forwarding dmr ts stream (callLc dmr srcSub dstGroup)
      ((translator dmr cfg).step Translator.initial call.head.event).1 := ⟨only, opened⟩
  obtain ⟨repeated, repeats⟩ := (translator dmr cfg).run_answers rfl append CallPacket.event
    (fun _ => [⟨true, stream, callHead dmr ts srcSub dstGroup⟩])
    (Forwarding dmr ts stream (callLc dmr srcSub dstGroup)) call.repeats
    (fun packet member tr forwarding =>
      forwarding.head documented inverts flow (call.repeats_type packet member)) _ start
  obtain ⟨spoken, voices⟩ := (translator dmr cfg).run_answers rfl append CallPacket.event
    (fun packet => [⟨true, stream, callVoice ts srcSub dstGroup packet.voice⟩])
    (Forwarding dmr ts stream (callLc dmr srcSub dstGroup)) call.voices
    (fun packet member tr forwarding =>
      forwarding.voice documented inverts flow (isVoice_slotVoice (call.voices_type packet member))
        (call.voices_long packet member)) _ repeated
  generalize spokenTr : ((translator dmr cfg).run _ (call.voices.map CallPacket.event)).1 = tr at spoken
  obtain ⟨-, last⟩ := call.term.step_eq dmr cfg tr
  have term := last.trans
    (call.term.term_forwarded documented flow tr.shared call.term_type spoken.only spoken.call)
  rw [WholeCall.events, List.singleton_append, Mealy.run_cons, Mealy.run_append, Mealy.run_append,
    append, append, append, repeats, voices, spokenTr, Mealy.run_cons, Mealy.run_nil, List.append_nil,
    term, heads, ← List.map_eq_flatMap, ← List.map_eq_flatMap, List.singleton_append]

end Ipsc2Hbp
