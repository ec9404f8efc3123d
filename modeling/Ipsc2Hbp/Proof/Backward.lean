import Ipsc2Hbp.Proof.CallBursts
import Ipsc2Hbp.Proof.HeadFirst

namespace Ipsc2Hbp
open BigEndian

/-- The 19 voice bytes of a frame. -/
theorem extractAmbeFromDmrd_length {dmr : DmrUtils} (documented : dmr.Documented) {payload : Bytes}
    (payloadWide : payload.length = 33) : (extractAmbeFromDmrd dmr payload).length = 19 := by
  have slices : ∀ start stop, start ≤ stop → stop ≤ 264 →
      ((bytesToBits payload).extract start stop).length = stop - start := by
    intro start stop ordered inside
    rw [extract_length, bytesToBits_length, payloadWide]
    omega
  have first := documented.convert72_length _ (slices 0 72 (by decide) (by decide))
  have second := documented.convert72_length ((bytesToBits payload).extract 72 108 ++
    (bytesToBits payload).extract 156 192) (by
      rw [List.length_append, slices _ _ (by decide) (by decide), slices _ _ (by decide) (by decide)])
  have third := documented.convert72_length _ (slices 192 264 (by decide) (by decide))
  unfold extractAmbeFromDmrd
  simp only
  rw [bitsToBytes_length]
  all_goals simp only [List.length_append, first, second, third]
  all_goals decide

/-- Only DMRD frames have come, so that nothing on the timeslot stops the next one. -/
structure HbpOnly (slot : Slot) : Prop where
  lock : slot.lock.OpenFor .hbp
  unheard : slot.ipscBusyLast = 0

/-- The packets of a list of actions that go to the peer, as they read. -/
def sentBursts (actions : List Action) : List (Option CallBurst) :=
  (sentEntries actions).map fun entry => readPacket entry.packet

@[simp] theorem sentBursts_append (first second : List Action) :
    sentBursts (first ++ second) = sentBursts first ++ sentBursts second := by
  simp [sentBursts]

/-- Without pacing, a packet that is generated at an idle slot is sent at once. -/
theorem generatePacket_sent {cfg : Config} (unpaced : cfg.hbpToIpscPacing = false) (shared : Shared)
    (frame : HbpFrame) (callInfo rtpPt : UInt8) (gvPayload : Bytes) (burstType : UInt8) (clock : Clock)
    (past : cfg.holdoff ≤ clock 0) {slot : Slot} (only : HbpOnly slot) :
    let result := generatePacket cfg shared frame callInfo rtpPt gvPayload burstType clock slot
    HbpOnly result.1 ∧ sentBursts result.2 =
      [readPacket (callPacket cfg shared frame callInfo rtpPt gvPayload slot.inCall)] := by
  have idle : isIpscSlotBusy cfg (clock 0) { slot with inCall := slot.inCall.advance } = false := by
    unfold isIpscSlotBusy
    simp only [only.unheard, sub_zero]
    split_ifs
    · rfl
    · rfl
    · exact decide_eq_false (not_lt.mpr past)
  have outcome := generatePacket_cases cfg shared frame callInfo rtpPt gvPayload burstType clock slot
  intro result
  change SendOutcome cfg _ clock _ result.1 result.2 at outcome
  generalize result.1 = after at outcome ⊢
  generalize result.2 = actions at outcome ⊢
  cases outcome with
  | full paced => rw [unpaced] at paced; cases paced
  | queued handle paced => rw [unpaced] at paced; cases paced
  | direct after actions direct sent =>
      cases sent with
      | busy occupied => rw [idle] at occupied; cases occupied
      | sent reflect => exact ⟨⟨only.lock, only.unheard⟩, rfl⟩

/-- The LC lies behind the seven bytes in front of it. -/
theorem buildIpscVoicePayload_lc (dmr : DmrUtils) {lc : Bytes} (lcWide : lc.length = 9)
    (burstType : UInt8) : (buildIpscVoicePayload dmr lc burstType).extract 7 16 = lc := by
  have whole : lc.take 9 = lc := List.take_of_length_le (by omega)
  have parts : ∃ back, buildIpscVoicePayload dmr lc burstType =
      [0x80, 0x00, 0x0a, 0x80, 0x0a, 0x00, 0x60] ++ (lc ++ back) := by
    simp only [buildIpscVoicePayload, whole, List.append_assoc]
    exact ⟨_, rfl⟩
  obtain ⟨back, parts⟩ := parts
  exact extract_middle _ back parts rfl (by rw [lcWide])

/-- The call info byte of a frame's packets shows its timeslot. -/
theorem HbpFrame.callInfo_timeslot (frame : HbpFrame) :
    (if frame.callInfo &&& tsCallMsk ≠ 0 then Timeslot.ts2 else .ts1) = frame.timeslot ∧
      (if (frame.callInfo ||| endMsk) &&& tsCallMsk ≠ 0 then Timeslot.ts2 else .ts1) =
        frame.timeslot := by
  unfold callInfo
  cases frame.timeslot <;> exact ⟨by decide, by decide⟩

section Packets
variable (dmr : DmrUtils) (cfg : Config) {shared : Shared} (wide : shared.Wide) {frame : HbpFrame}
  (frameWide : frame.Wide) (rtpPt : UInt8) (inCall : InCall)
include wide frameWide

/-- A VOICE_HEAD reads as the header of its call. -/
theorem readPacket_head {lc : Bytes} (lcWide : lc.length = 9) :
    readPacket (callPacket cfg shared frame frame.callInfo rtpPt
        ([voiceHead] ++ buildIpscVoicePayload dmr lc voiceHead) inCall) =
      some ⟨frame.timeslot, voiceHead, frame.srcSub, frame.dstGroup, lc⟩ := by
  have read := readPacket_buildGv cfg wide frameWide.srcSub frameWide.dstGroup frame.callInfo rtpPt
    inCall.streamId voiceHead inCall.rtpSeq inCall.rtpTs (buildIpscVoicePayload dmr lc voiceHead)
  rw [frame.callInfo_timeslot.1, if_pos (.inl rfl), buildIpscVoicePayload_lc dmr lcWide] at read
  exact read

/-- A VOICE_TERM reads as the terminator of its call. -/
theorem readPacket_term {lc : Bytes} (lcWide : lc.length = 9) :
    readPacket (callPacket cfg shared frame (frame.callInfo ||| endMsk) rtpPt
        ([voiceTerm] ++ buildIpscVoicePayload dmr lc voiceTerm) inCall) =
      some ⟨frame.timeslot, voiceTerm, frame.srcSub, frame.dstGroup, lc⟩ := by
  have read := readPacket_buildGv cfg wide frameWide.srcSub frameWide.dstGroup
    (frame.callInfo ||| endMsk) rtpPt inCall.streamId voiceTerm inCall.rtpSeq inCall.rtpTs
    (buildIpscVoicePayload dmr lc voiceTerm)
  rw [frame.callInfo_timeslot.2, if_pos (.inr rfl), buildIpscVoicePayload_lc dmr lcWide] at read
  exact read

/-- A voice packet reads as its voice bytes. -/
theorem readPacket_voice {ambe : Bytes} (ambeWide : ambe.length = 19) (words mark : UInt8)
    (rest : Bytes) :
    readPacket (callPacket cfg shared frame frame.callInfo rtpPt
        (frame.slotBurst :: words :: mark :: (ambe ++ rest)) inCall) =
      some ⟨frame.timeslot, slotVoice frame.timeslot, frame.srcSub, frame.dstGroup, ambe⟩ := by
  have read := readPacket_buildGv cfg wide frameWide.srcSub frameWide.dstGroup frame.callInfo rtpPt
    inCall.streamId frame.slotBurst inCall.rtpSeq inCall.rtpTs (words :: mark :: (ambe ++ rest))
  have voice : ¬ (frame.slotBurst = voiceHead ∨ frame.slotBurst = voiceTerm) := by
    unfold HbpFrame.slotBurst
    cases frame.timeslot <;> decide
  have content : (words :: mark :: (ambe ++ rest)).extract 2 21 = ambe :=
    extract_middle [words, mark] rest rfl rfl (by rw [ambeWide])
  rw [frame.callInfo_timeslot.1, if_neg voice, content] at read
  exact read

end Packets

/-- The call of a stream is open, with its LC. -/
structure InCall.Receiving (stream lc : Bytes) (started : Bool) (inCall : InCall) : Prop where
  lc : inCall.lc = some lc
  hbpStream : inCall.hbpStream = some stream
  started : inCall.started = started

/-- A call that goes on keeps its stream and LC. -/
theorem InCall.Receiving.continued {stream lc : Bytes} {started : Bool} {before after : InCall}
    (call : before.Receiving stream lc started) (continues : after.Continues before) :
    after.Receiving stream lc after.started := by
  obtain ⟨rtpSeq, rtpTs, now, rfl⟩ := continues
  exact ⟨call.lc, call.hbpStream, rfl⟩

section Branches
variable {dmr : DmrUtils} (documented : dmr.Documented) {cfg : Config}
  (unpaced : cfg.hbpToIpscPacing = false) {shared : Shared} (wide : shared.Wide) {frame : HbpFrame}
  (frameWide : frame.Wide) {clock : Clock} (past : ∀ reading, cfg.holdoff ≤ clock reading)
  {slot : Slot} (only : HbpOnly slot) {stream lc : Bytes} (lcWide : lc.length = 9) {started : Bool}

/-- A call that has not started sends its headers. -/
def pendingHeads (cfg : Config) (head : CallBurst) (started : Bool) : List (Option CallBurst) :=
  if started then [] else List.replicate cfg.headerCount (some head)

/-- The header of the call that a frame belongs to. -/
def HbpFrame.callHead (frame : HbpFrame) (lc : Bytes) : CallBurst :=
  ⟨frame.timeslot, voiceHead, frame.srcSub, frame.dstGroup, lc⟩

include unpaced wide frameWide past only lcWide

/-- The start of a call sends its headers. -/
theorem emitHbpIpscStart_sent (call : slot.inCall.Receiving stream lc started) :
    let start := emitHbpIpscStart dmr cfg shared frame clock slot
    HbpOnly start.1 ∧ start.1.inCall.Receiving stream lc true ∧
      sentBursts start.2 = pendingHeads cfg (frame.callHead lc) started := by
  have kept := call.continued (emitHbpIpscStart_continues dmr cfg shared frame clock slot)
  revert kept
  unfold emitHbpIpscStart
  rw [call.started]
  cases started with
  | true => exact fun _ => ⟨only, call, rfl⟩
  | false =>
      intro kept
      have heads := emitHeads_invariant dmr cfg shared frame
        (truthyOr slot.inCall.lc (dmr.lcOpt ++ frame.dstGroup ++ frame.srcSub)) clock
        (fun idx log after => HbpOnly after ∧ sentBursts log = List.replicate idx (some (frame.callHead lc)))
        (fun idx log before ⟨only, sent⟩ => by
          obtain ⟨still, one⟩ := generatePacket_sent unpaced shared frame frame.callInfo
            (if idx = 0 then 0xdd else 0x5d) ([voiceHead] ++ buildIpscVoicePayload dmr
              (truthyOr slot.inCall.lc (dmr.lcOpt ++ frame.dstGroup ++ frame.srcSub)) voiceHead)
            voiceHead (fun reading => clock (2 * idx + reading)) (past _) only
          refine ⟨still, ?_⟩
          rw [sentBursts_append, sent, one, call.lc, truthyOr_some lcWide,
            readPacket_head dmr cfg wide frameWide _ _ lcWide, List.replicate_succ']
          rfl)
        cfg.headerCount 0 [] slot ⟨only, rfl⟩
      rw [Nat.zero_add, List.nil_append] at heads
      exact ⟨⟨heads.1.lock, heads.1.unheard⟩, kept, heads.2⟩

include documented

/-- A voice frame of an open call is sent, after the headers if the call has not started. -/
theorem continueVoice_sent (call : slot.inCall.Receiving stream lc started) :
    let voice := continueVoice dmr cfg frame clock shared slot
    HbpOnly voice.1 ∧ voice.1.inCall.Receiving stream lc true ∧
      sentBursts voice.2 = pendingHeads cfg (frame.callHead lc) started ++
        [some ⟨frame.timeslot, slotVoice frame.timeslot, frame.srcSub, frame.dstGroup,
          extractAmbeFromDmrd dmr frame.payload⟩] := by
  obtain ⟨still, begun, heads⟩ := emitHbpIpscStart_sent unpaced wide frameWide
    (fun reading => past (2 + reading)) only lcWide call
  unfold continueVoice
  generalize emitHbpIpscStart dmr cfg shared frame (fun reading => clock (2 + reading)) slot = start
    at still begun heads
  obtain ⟨words, mark, rest, built⟩ := hbpVoicePayload_ok documented frame start.1
  simp only [built]
  obtain ⟨after, voice⟩ := generatePacket_sent unpaced shared frame frame.callInfo 0x5d
    (frame.slotBurst :: words :: mark :: (extractAmbeFromDmrd dmr frame.payload ++ rest))
    frame.slotBurst (fun reading => clock (12 + reading)) (past _) still
  refine ⟨after, ?_, ?_⟩
  · rw [generatePacket_inCall]
    exact ⟨begun.lc, begun.hbpStream, begun.started⟩
  · rw [sentBursts_append, heads, voice, readPacket_voice cfg wide frameWide 0x5d start.1.inCall
      (extractAmbeFromDmrd_length documented frameWide.payload)]

omit documented wide frameWide past lcWide unpaced in
/-- The lock lets every DMRD frame in. -/
theorem hbpFrameReceived_open (flow : cfg.legacyFlow = false) (draw : RtpDraw) :
    ∃ admitted, HbpOnly admitted ∧ admitted.inCall = { slot.inCall with lastPkt := clock 0 } ∧
      hbpFrameReceived dmr cfg frame draw clock shared slot =
        if frame.isHead then hbpHead dmr cfg frame draw clock shared admitted
        else if frame.isTerm then (shared, hbpTerm dmr cfg frame clock shared admitted)
        else hbpVoice dmr cfg frame draw clock shared admitted := by
  obtain ⟨lock, passed, held⟩ := callLockBlocks_open cfg { slot with inCall.lastPkt := clock 0 }
    (.hbp frame.stream) only.lock frame.srcSub frame.dstGroup frame.isTerm (clock 1)
  refine ⟨{ slot with inCall.lastPkt := clock 0, lock := lock }, ⟨held, only.unheard⟩, rfl, ?_⟩
  unfold hbpFrameReceived
  simp only [passed, legacyHbpStreamDrop, flow, Bool.not_false, if_true, Bool.false_eq_true, if_false]

omit documented in
/-- A header opens the call of its stream; it may start it at once. -/
theorem hbpFrameReceived_head (flow : cfg.legacyFlow = false) (draw : RtpDraw)
    (head : frame.isHead = true) (spelled : decodeHbpVoiceLc dmr frame.payload = lc)
    (closed : slot.inCall.lc = none) :
    let result := hbpFrameReceived dmr cfg frame draw clock shared slot
    HbpOnly result.2.1 ∧
      result.2.1.inCall.Receiving frame.stream lc (!cfg.hbpStartOnVoice) ∧
      sentBursts result.2.2 = pendingHeads cfg (frame.callHead lc) cfg.hbpStartOnVoice := by
  obtain ⟨admitted, still, inCall, received⟩ := hbpFrameReceived_open only flow draw
  have fresh : duplicateHead frame (clock 0) admitted = false := by
    simp only [duplicateHead, inCall, closed, Option.isSome_none, Bool.false_and]
  rw [received, if_pos head, hbpHead_eq, fresh, spelled]
  simp only [Bool.false_eq_true, if_false]
  cases waits : cfg.hbpStartOnVoice with
  | true => exact ⟨⟨still.lock, still.unheard⟩, ⟨rfl, rfl, rfl⟩, rfl⟩
  | false =>
      have opened : (openHbpCall dmr frame lc draw (clock 0) shared admitted).2.inCall.Receiving
          frame.stream lc false := ⟨rfl, rfl, rfl⟩
      have wideAfter : (openHbpCall dmr frame lc draw (clock 0) shared admitted).1.Wide :=
        ⟨wide.peerCallType, wide.peerCallCtrl⟩
      have idle : HbpOnly (openHbpCall dmr frame lc draw (clock 0) shared admitted).2 :=
        ⟨still.lock, still.unheard⟩
      exact emitHbpIpscStart_sent unpaced wideAfter frameWide (fun reading => past (2 + reading)) idle
        lcWide opened

omit documented unpaced wide frameWide past lcWide in
/-- A repeated header is merged. -/
theorem hbpFrameReceived_repeat (flow : cfg.legacyFlow = false) (draw : RtpDraw)
    (head : frame.isHead = true) (spelled : decodeHbpVoiceLc dmr frame.payload = lc)
    (call : slot.inCall.Receiving frame.stream lc started) :
    let result := hbpFrameReceived dmr cfg frame draw clock shared slot
    HbpOnly result.2.1 ∧ result.2.1.inCall.Receiving frame.stream lc started ∧
      sentBursts result.2.2 = [] := by
  obtain ⟨admitted, still, inCall, received⟩ := hbpFrameReceived_open only flow draw
  have same : duplicateHead frame (clock 0) admitted = true := by
    simp only [duplicateHead, inCall, call.lc, call.hbpStream, Option.isSome_some, decide_true,
      Bool.true_or, Bool.and_true]
  rw [received, if_pos head, hbpHead_eq, same, spelled]
  refine ⟨⟨still.lock, still.unheard⟩, ⟨rfl, ?_, ?_⟩, rfl⟩
  · simp only [if_true, inCall, call.hbpStream]
  · simp only [if_true, inCall, call.started]

/-- A voice frame of the open call is sent. -/
theorem hbpFrameReceived_voice (flow : cfg.legacyFlow = false) (draw : RtpDraw)
    (notHead : frame.isHead = false) (notTerm : frame.isTerm = false)
    (call : slot.inCall.Receiving stream lc started) :
    let result := hbpFrameReceived dmr cfg frame draw clock shared slot
    HbpOnly result.2.1 ∧ result.2.1.inCall.Receiving stream lc true ∧
      sentBursts result.2.2 = pendingHeads cfg (frame.callHead lc) started ++
        [some ⟨frame.timeslot, slotVoice frame.timeslot, frame.srcSub, frame.dstGroup,
          extractAmbeFromDmrd dmr frame.payload⟩] := by
  obtain ⟨admitted, still, inCall, received⟩ := hbpFrameReceived_open only flow draw
  have kept : admitted.inCall.Receiving stream lc started := by
    rw [inCall]
    exact ⟨call.lc, call.hbpStream, call.started⟩
  rw [received, notHead, notTerm, if_neg Bool.false_ne_true, if_neg Bool.false_ne_true, hbpVoice_eq,
    if_neg (by simp [kept.lc]), if_neg (by simp [kept.lc])]
  exact continueVoice_sent documented unpaced wide frameWide past still lcWide kept

omit documented in
/-- A terminator ends the started call with a packet. -/
theorem hbpFrameReceived_term (flow : cfg.legacyFlow = false) (draw : RtpDraw)
    (notHead : frame.isHead = false) (term : frame.isTerm = true)
    (call : slot.inCall.Receiving stream lc true) :
    sentBursts (hbpFrameReceived dmr cfg frame draw clock shared slot).2.2 =
      [some ⟨frame.timeslot, voiceTerm, frame.srcSub, frame.dstGroup, lc⟩] := by
  obtain ⟨admitted, still, inCall, received⟩ := hbpFrameReceived_open only flow draw
  have recorded : admitted.inCall.lc = some lc := by rw [inCall]; exact call.lc
  have begun : admitted.inCall.started = true := by rw [inCall]; exact call.started
  obtain ⟨-, sent⟩ := generatePacket_sent unpaced shared frame (frame.callInfo ||| endMsk) 0x5e
    ([voiceTerm] ++ buildIpscVoicePayload dmr lc voiceTerm) voiceTerm
    (fun reading => clock (2 + reading)) (past _) still
  rw [received, notHead, term, if_neg Bool.false_ne_true, if_pos rfl, hbpTerm, begun]
  simp only [Bool.not_true, Bool.false_eq_true, if_false, recorded, truthyOr_some lcWide]
  rw [sent, readPacket_term dmr cfg wide frameWide _ _ lcWide]

end Branches

/-- The packets that a log of the translator sends to the peer, in order. -/
def sentPackets (log : List Output) : List Bytes :=
  log.filterMap fun output => match output with
    | .slot _ (.sendToPeer entry) => some entry.packet
    | _ => none

/-- The bursts that the packets of a log carry. -/
def packetReadings (log : List Output) : List (Option CallBurst) := (sentPackets log).map readPacket

theorem packetReadings_append (first second : List Output) :
    packetReadings (first ++ second) = packetReadings first ++ packetReadings second := by
  simp only [packetReadings, sentPackets, List.filterMap_append, List.map_append]

/-- The packets of one handler. -/
theorem packetReadings_slot (ts : Timeslot) (actions : List Action) :
    packetReadings (actions.map (Output.slot ts)) = sentBursts actions := by
  unfold packetReadings sentPackets sentBursts sentEntries
  rw [List.filterMap_map, List.map_filterMap, List.map_filterMap]
  congr 1
  funext action
  cases action <;> rfl

/-- A DMRD frame on its way to a translator whose peer is registered, with what its callback reads
from outside. The clock, which counts seconds since 1970, is past the holdoff of a busy slot. -/
structure Delivery (cfg : Config) where
  dmrd : Bytes
  draw : RtpDraw
  clock : Clock
  past : ∀ reading, cfg.holdoff ≤ clock reading

def Delivery.event {cfg : Config} (delivery : Delivery cfg) : Event :=
  .hbpVoice true delivery.dmrd delivery.draw delivery.clock

/-- A whole frame passes the checks for its timeslot. -/
theorem Delivery.accepted {cfg : Config} (delivery : Delivery cfg) {dmr : DmrUtils} {stream : Bytes}
    {burst : CallBurst} (reads : readDmrd dmr delivery.dmrd = ⟨true, stream, burst⟩) :
    acceptedFrame true delivery.dmrd = some (HbpFrame.read delivery.dmrd) ∧
      (HbpFrame.read delivery.dmrd).timeslot = burst.timeslot := by
  obtain ⟨whole, -, rfl⟩ := DmrdReading.mk.inj reads
  have long : dmrdLen ≤ delivery.dmrd.length := by simpa using whole
  have inside : dmrdFlagsOff < delivery.dmrd.length := lt_of_lt_of_le (by decide) long
  exact ⟨by simp [acceptedFrame, long, HbpFrame.read, List.getElem?_eq_getElem inside], rfl⟩

/-- A whole frame is handled on its timeslot. -/
theorem Delivery.step_eq {cfg : Config} (delivery : Delivery cfg) {dmr : DmrUtils} {stream : Bytes}
    {burst : CallBurst} (reads : readDmrd dmr delivery.dmrd = ⟨true, stream, burst⟩) (tr : Translator) :
    let frame := HbpFrame.read delivery.dmrd
    let result := hbpFrameReceived dmr cfg frame delivery.draw delivery.clock tr.shared
      (tr.slot burst.timeslot)
    frame.Wide ∧ frame.stream = stream ∧ frame.burst dmr = burst ∧
      ((translator dmr cfg).step tr delivery.event).1.shared = result.1 ∧
      ((translator dmr cfg).step tr delivery.event).1.slot burst.timeslot = result.2.1 ∧
      packetReadings ((translator dmr cfg).step tr delivery.event).2 = sentBursts result.2.2 := by
  obtain ⟨accepted, -⟩ := delivery.accepted reads
  obtain ⟨-, rfl, rfl⟩ := DmrdReading.mk.inj reads
  have step : (translator dmr cfg).step tr delivery.event =
      tr.onSlot (HbpFrame.read delivery.dmrd).timeslot
        (hbpFrameReceived dmr cfg (HbpFrame.read delivery.dmrd) delivery.draw delivery.clock) := by
    change hbpVoiceReceived dmr cfg true delivery.dmrd delivery.draw delivery.clock tr = _
    rw [hbpVoiceReceived_eq, accepted]
  rw [step]
  exact ⟨acceptedFrame_wide accepted, rfl, rfl, rfl, Function.update_self .., packetReadings_slot ..⟩

/-- The timeslot is in the middle of a call that only DMRD frames have made. -/
structure Backward (ts : Timeslot) (stream lc : Bytes) (started : Bool) (tr : Translator) : Prop where
  wide : tr.shared.Wide
  only : HbpOnly (tr.slot ts)
  call : (tr.slot ts).inCall.Receiving stream lc started

section Run
variable {dmr : DmrUtils} {cfg : Config} (unpaced : cfg.hbpToIpscPacing = false)
  (flow : cfg.legacyFlow = false) {ts : Timeslot} {srcSub dstGroup stream lc : Bytes}
  (lcWide : lc.length = 9) {delivery : Delivery cfg} {tr : Translator}
include unpaced flow lcWide

/-- The first header opens the call. -/
theorem Delivery.head_received
    (reads : readDmrd dmr delivery.dmrd = ⟨true, stream, ⟨ts, voiceHead, srcSub, dstGroup, lc⟩⟩)
    (wide : tr.shared.Wide) (only : HbpOnly (tr.slot ts)) (closed : (tr.slot ts).inCall.lc = none) :
    Backward ts stream lc (!cfg.hbpStartOnVoice) ((translator dmr cfg).step tr delivery.event).1 ∧
      packetReadings ((translator dmr cfg).step tr delivery.event).2 =
        pendingHeads cfg ⟨ts, voiceHead, srcSub, dstGroup, lc⟩ cfg.hbpStartOnVoice := by
  obtain ⟨frameWide, rfl, burst, -, slot, sent⟩ := delivery.step_eq reads tr
  have head := (HbpFrame.kind_of_burst burst).1 rfl
  rw [head.burst] at burst
  obtain ⟨-, -, rfl, rfl, spelled⟩ := CallBurst.mk.inj burst
  obtain ⟨after, call, heads⟩ := hbpFrameReceived_head unpaced wide frameWide delivery.past only lcWide
    flow delivery.draw head.isHead spelled closed
  refine ⟨⟨Translator.step_wide dmr cfg tr delivery.event wide, by rwa [slot], by rwa [slot]⟩, ?_⟩
  rw [sent, heads, HbpFrame.callHead, head.timeslot]

omit unpaced lcWide in
/-- Each further header is merged. -/
theorem Backward.repeat {started : Bool} (backward : Backward ts stream lc started tr)
    (reads : readDmrd dmr delivery.dmrd = ⟨true, stream, ⟨ts, voiceHead, srcSub, dstGroup, lc⟩⟩) :
    Backward ts stream lc started ((translator dmr cfg).step tr delivery.event).1 ∧
      packetReadings ((translator dmr cfg).step tr delivery.event).2 = [] := by
  obtain ⟨-, rfl, burst, -, slot, sent⟩ := delivery.step_eq reads tr
  have head := (HbpFrame.kind_of_burst burst).1 rfl
  rw [head.burst] at burst
  obtain ⟨-, -, -, -, spelled⟩ := CallBurst.mk.inj burst
  obtain ⟨after, call, silent⟩ := hbpFrameReceived_repeat backward.only flow delivery.draw head.isHead
    spelled backward.call
  exact ⟨⟨Translator.step_wide dmr cfg tr delivery.event backward.wide, by rwa [slot], by rwa [slot]⟩,
    sent.trans silent⟩

/-- A voice frame is sent on, after the headers if the call has not started. -/
theorem Backward.voice {started : Bool} (backward : Backward ts stream lc started tr)
    (documented : dmr.Documented) {ambe : Bytes}
    (reads : readDmrd dmr delivery.dmrd = ⟨true, stream, ⟨ts, slotVoice ts, srcSub, dstGroup, ambe⟩⟩) :
    Backward ts stream lc true ((translator dmr cfg).step tr delivery.event).1 ∧
      packetReadings ((translator dmr cfg).step tr delivery.event).2 =
        pendingHeads cfg ⟨ts, voiceHead, srcSub, dstGroup, lc⟩ started ++
          [some ⟨ts, slotVoice ts, srcSub, dstGroup, ambe⟩] := by
  obtain ⟨frameWide, rfl, burst, -, slot, sent⟩ := delivery.step_eq reads tr
  have voice := (HbpFrame.kind_of_burst burst).2.2 rfl
  rw [voice.burst] at burst
  obtain ⟨-, -, rfl, rfl, rfl⟩ := CallBurst.mk.inj burst
  obtain ⟨after, call, spoken⟩ := hbpFrameReceived_voice documented unpaced backward.wide frameWide
    delivery.past backward.only lcWide flow delivery.draw voice.isHead voice.isTerm backward.call
  refine ⟨⟨Translator.step_wide dmr cfg tr delivery.event backward.wide, by rwa [slot], by rwa [slot]⟩,
    ?_⟩
  rw [sent, spoken, HbpFrame.callHead, voice.timeslot]

/-- The terminator is sent on with the LC of the call. -/
theorem Backward.term (backward : Backward ts stream lc true tr) {content : Bytes}
    (reads : readDmrd dmr delivery.dmrd =
      ⟨true, stream, ⟨ts, voiceTerm, srcSub, dstGroup, content⟩⟩) :
    packetReadings ((translator dmr cfg).step tr delivery.event).2 =
      [some ⟨ts, voiceTerm, srcSub, dstGroup, lc⟩] := by
  obtain ⟨frameWide, rfl, burst, -, slot, sent⟩ := delivery.step_eq reads tr
  have term := (HbpFrame.kind_of_burst burst).2.1 rfl
  rw [term.burst] at burst
  obtain ⟨-, -, rfl, rfl, -⟩ := CallBurst.mk.inj burst
  rw [sent, hbpFrameReceived_term unpaced backward.wide frameWide delivery.past backward.only lcWide
    flow delivery.draw term.isHead term.isTerm backward.call, term.timeslot]

end Run

/-- A fresh translator turns the frames of one stream into the packets of a call. -/
theorem call_returned {dmr : DmrUtils} (documented : dmr.Documented) {cfg : Config}
    (unpaced : cfg.hbpToIpscPacing = false) (flow : cfg.legacyFlow = false) {ts : Timeslot}
    {srcSub dstGroup stream lc content : Bytes} (lcWide : lc.length = 9)
    (first : Delivery cfg) (repeats : List (Delivery cfg)) (next : Delivery cfg)
    (rest : List (Delivery cfg)) (last : Delivery cfg)
    (heads : ∀ delivery ∈ first :: repeats, readDmrd dmr delivery.dmrd =
      ⟨true, stream, ⟨ts, voiceHead, srcSub, dstGroup, lc⟩⟩)
    (voices : ∀ delivery ∈ next :: rest, ∃ ambe, readDmrd dmr delivery.dmrd =
      ⟨true, stream, ⟨ts, slotVoice ts, srcSub, dstGroup, ambe⟩⟩)
    (term : readDmrd dmr last.dmrd = ⟨true, stream, ⟨ts, voiceTerm, srcSub, dstGroup, content⟩⟩) :
    packetReadings ((translator dmr cfg).run Translator.initial
        ((first :: repeats ++ (next :: rest ++ [last])).map Delivery.event)).2 =
      List.replicate cfg.headerCount (some ⟨ts, voiceHead, srcSub, dstGroup, lc⟩) ++
        ((next :: rest).map (fun delivery => some (readDmrd dmr delivery.dmrd).burst) ++
          [some ⟨ts, voiceTerm, srcSub, dstGroup, lc⟩]) := by
  have append := packetReadings_append
  have fresh : HbpOnly (Translator.initial.slot ts) := ⟨CallLock.openFor_initial .hbp, rfl⟩
  obtain ⟨opened, pending⟩ := Delivery.head_received unpaced flow lcWide
    (heads first List.mem_cons_self) Translator.initial_wide fresh rfl
  obtain ⟨merged, silent⟩ := (translator dmr cfg).run_answers rfl append Delivery.event (fun _ => [])
    (Backward ts stream lc (!cfg.hbpStartOnVoice)) repeats
    (fun delivery member tr backward =>
      backward.repeat flow (heads delivery (List.mem_cons_of_mem _ member))) _ opened
  -- the first voice frame starts the call, unless its header has done so
  obtain ⟨ambe, reads⟩ := voices next List.mem_cons_self
  obtain ⟨begun, start⟩ := merged.voice unpaced flow lcWide documented reads
  obtain ⟨spoken, spread⟩ := (translator dmr cfg).run_answers rfl append Delivery.event
    (fun delivery => [some (readDmrd dmr delivery.dmrd).burst]) (Backward ts stream lc true) rest
    (fun delivery member tr backward => by
      obtain ⟨ambe, reads⟩ := voices delivery (List.mem_cons_of_mem _ member)
      rw [reads]
      exact backward.voice unpaced flow lcWide documented reads) _ begun
  have ended := spoken.term unpaced flow lcWide term
  have once : pendingHeads cfg ⟨ts, voiceHead, srcSub, dstGroup, lc⟩ cfg.hbpStartOnVoice ++
      pendingHeads cfg ⟨ts, voiceHead, srcSub, dstGroup, lc⟩ (!cfg.hbpStartOnVoice) =
        List.replicate cfg.headerCount (some ⟨ts, voiceHead, srcSub, dstGroup, lc⟩) := by
    cases cfg.hbpStartOnVoice
    · exact List.append_nil _
    · rfl
  have quiet : repeats.flatMap (fun _ => ([] : List (Option CallBurst))) = [] := by simp
  rw [quiet] at silent
  simp only [List.map_append, List.map_cons, List.map_nil, List.cons_append, Mealy.run_cons,
    Mealy.run_append, Mealy.run_nil, append, pending, silent, start, spread, ended, List.nil_append,
    List.append_nil, ← once, List.append_assoc, ← List.map_eq_flatMap, reads]

end Ipsc2Hbp
