import Ipsc2Hbp.Proof.SlotStep

namespace Ipsc2Hbp
open BigEndian

/-- The fields of an outbound call are set together, and its embedded LC encodes its LC. -/
structure OutCall.Coherent (dmr : DmrUtils) (outCall : OutCall) : Prop where
  lc : outCall.lc.isSome = outCall.streamId.isSome
  embLc : outCall.embLc = outCall.lc.map dmr.encodeEmblc

/-- The fields of an inbound call are set together, its embedded LC encodes its LC, and only an
open call has started. -/
structure InCall.Coherent (dmr : DmrUtils) (inCall : InCall) : Prop where
  embLc : inCall.embLc = inCall.lc.map dmr.encodeEmblc
  hbpStream : inCall.hbpStream.isSome = inCall.lc.isSome
  srcSub : inCall.srcSub.isSome = inCall.lc.isSome
  dstGroup : inCall.dstGroup.isSome = inCall.lc.isSome
  started : inCall.started = true → inCall.lc.isSome = true

/-- A drain callback is pending exactly while a packet waits. -/
def TxQueue.Scheduled (tx : TxQueue) : Prop := tx.handle ≠ none ↔ tx.queue ≠ []

/-- The call records of a timeslot are coherent. -/
structure Slot.Coherent (dmr : DmrUtils) (slot : Slot) : Prop where
  outCall : slot.outCall.Coherent dmr
  inCall : slot.inCall.Coherent dmr
  tx : slot.tx.Scheduled

variable {dmr : DmrUtils}

/-- A call without a stream, an LC and an embedded LC is coherent. -/
theorem OutCall.coherent_of_closed {outCall : OutCall} (streamId : outCall.streamId = none)
    (lc : outCall.lc = none) (embLc : outCall.embLc = none) : outCall.Coherent dmr :=
  ⟨by rw [lc, streamId], by rw [embLc, lc]; rfl⟩

/-- A call with a stream and an LC is coherent when its embedded LC was encoded from that LC. -/
theorem OutCall.coherent_of_opened {outCall : OutCall} {streamId lc : Bytes}
    (opened : outCall.streamId = some streamId) (stored : outCall.lc = some lc)
    (encoded : outCall.embLc = some (dmr.encodeEmblc lc)) : outCall.Coherent dmr :=
  ⟨by rw [stored, opened]; rfl, by rw [encoded, stored]; rfl⟩

theorem OutCall.Coherent.legacyPrelude {slot : Slot} (coherent : slot.outCall.Coherent dmr)
    (cfg : Config) (data : Bytes) (burstType : UInt8) (clock : Clock) :
    (legacyPrelude cfg data burstType clock slot).2.outCall.Coherent dmr := by
  have ways := legacyPrelude_cases cfg data burstType clock slot
  generalize (Ipsc2Hbp.legacyPrelude cfg data burstType clock slot).2 = after at ways
  generalize (Ipsc2Hbp.legacyPrelude cfg data burstType clock slot).1 = stale at ways
  cases ways with
  | kept | stale | recorded => exact ⟨coherent.lc, coherent.embLc⟩
  | restarted => exact OutCall.coherent_of_closed rfl rfl rfl

theorem BurstOutcome.coherent {cfg : Config} {ts : Timeslot} {data : Bytes} {burstType : UInt8}
    {urandom : StreamId} {now : Time} {seq : UInt8} {slot after : Slot} {actions : List Action}
    (outcome : BurstOutcome dmr cfg ts data burstType urandom now seq slot after actions)
    (coherent : slot.outCall.Coherent dmr) : after.outCall.Coherent dmr := by
  cases outcome with
  | ignored | outOfRange => exact coherent
  | headOpened | headRepeated | enteredLate | enteredSilent =>
      exact OutCall.coherent_of_opened rfl rfl rfl
  | ended => exact OutCall.coherent_of_closed rfl rfl rfl
  | voiceSent => exact ⟨coherent.lc, coherent.embLc⟩

/-- An IPSC packet sets or clears the fields of the outbound call together. -/
theorem OutCall.Coherent.ipscVoiceReceived {slot : Slot} (coherent : slot.outCall.Coherent dmr)
    (cfg : Config) (connected : Bool) (data : Bytes) (ts : Timeslot) (burstType : UInt8)
    (urandom : StreamId) (clock : Clock) (shared : Shared) :
    (ipscVoiceReceived dmr cfg connected data ts burstType urandom clock shared
      slot).2.1.outCall.Coherent dmr := by
  cases connected with
  | false => exact coherent
  | true =>
      have gated : (ipscGate cfg data burstType clock slot).2.outCall.Coherent dmr := by
        have before := coherent.legacyPrelude cfg data burstType clock
        have gate := ipscGate_cases cfg data burstType clock slot
        generalize Ipsc2Hbp.legacyPrelude cfg data burstType clock slot = prelude at before gate
        generalize ipscGate cfg data burstType clock slot = passed at gate
        rcases passed with ⟨dropped, after⟩
        cases gate with
        | stale | blocked | suppressed | admitted => exact before
      rw [ipscVoiceReceived_eq]
      split
      case isTrue => exact gated
      case isFalse => exact (sendBurst_cases ..).coherent gated

/-- An inbound call without an LC, an embedded LC, a stream, a source and a talkgroup is coherent
when it has not started. -/
theorem InCall.coherent_of_closed {inCall : InCall} (lc : inCall.lc = none)
    (embLc : inCall.embLc = none) (hbpStream : inCall.hbpStream = none)
    (srcSub : inCall.srcSub = none) (dstGroup : inCall.dstGroup = none)
    (started : inCall.started = false) : inCall.Coherent dmr where
  embLc := by rw [embLc, lc]; rfl
  hbpStream := by rw [hbpStream, lc]
  srcSub := by rw [srcSub, lc]
  dstGroup := by rw [dstGroup, lc]
  started := by rw [started]; exact fun absurd => Bool.noConfusion absurd

theorem InCall.reset_coherent (inCall : InCall) : (resetHbpToIpscState inCall).Coherent dmr :=
  InCall.coherent_of_closed rfl rfl rfl rfl rfl rfl

/-- An open call stays coherent while only its counters and its start move. -/
theorem InCall.Coherent.continues {before after : InCall} (coherent : before.Coherent dmr)
    (opened : before.lc.isSome = true) (continues : after.Continues before) :
    after.Coherent dmr := by
  obtain ⟨rtpSeq, rtpTs, started, rfl⟩ := continues
  exact ⟨coherent.embLc, coherent.hbpStream, coherent.srcSub, coherent.dstGroup, fun _ => opened⟩

/-- A new call sets every field. -/
theorem openHbpCall_coherent (frame : HbpFrame) (lc : Bytes) (draw : RtpDraw) (now : Time)
    (shared : Shared) (slot : Slot) :
    (openHbpCall dmr frame lc draw now shared slot).2.inCall.Coherent dmr :=
  ⟨rfl, rfl, rfl, rfl, fun _ => rfl⟩

/-- A frame that the lock lets in sets or clears the fields of the inbound call together. -/
theorem HbpOutcome.coherent {cfg : Config} {frame : HbpFrame} {draw : RtpDraw} {clock : Clock}
    {shared : Shared} {slot : Slot} {result : Shared × Slot × List Action}
    (outcome : HbpOutcome dmr cfg frame draw clock shared slot result)
    (coherent : slot.inCall.Coherent dmr) : result.2.1.inCall.Coherent dmr := by
  cases outcome with
  | foreignTerm | voiceIgnored => exact coherent
  | headMerged head duplicate =>
      have opened : slot.inCall.lc.isSome = true := by
        unfold duplicateHead at duplicate
        exact (Bool.and_eq_true_iff.mp duplicate).1
      refine ⟨rfl, ?_, ?_, ?_, fun _ => rfl⟩
      · exact coherent.hbpStream.trans opened
      · exact coherent.srcSub.trans opened
      · exact coherent.dstGroup.trans opened
  | headOpened opened head fresh waits recorded =>
      subst recorded
      exact openHbpCall_coherent ..
  | headStarted opened head fresh atOnce recorded =>
      subst recorded
      exact (openHbpCall_coherent ..).continues rfl (emitHbpIpscStart_continues ..)
  | endedSilent | ended => exact InCall.reset_coherent _
  | voiceContinued notHead notTerm opened =>
      exact coherent.continues opened (continueVoice_continues ..)
  | voiceOpened opened notHead notTerm closed flow recorded =>
      subst recorded
      exact (openHbpCall_coherent ..).continues rfl (continueVoice_continues ..)

/-- A packet that is queued finds a drain pending or schedules one. -/
theorem SendOutcome.scheduled {cfg : Config} {entry : QueueEntry} {clock : Clock} {slot after : Slot}
    {actions : List Action} (outcome : SendOutcome cfg entry clock slot after actions)
    (scheduled : slot.tx.Scheduled) : after.tx.Scheduled := by
  cases outcome with
  | direct after actions unpaced sent => rwa [sent.tx]
  | full => exact scheduled
  | queued handle paced room pending =>
      have waiting : slot.tx.queue ++ [entry] ≠ [] := by simp
      exact iff_of_true (Option.isSome_iff_ne_none.mp pending) waiting

theorem generatePacket_scheduled (cfg : Config) (shared : Shared) (frame : HbpFrame)
    (callInfo rtpPt : UInt8) (gvPayload : Bytes) (burstType : UInt8) (clock : Clock) {slot : Slot}
    (scheduled : slot.tx.Scheduled) :
    (generatePacket cfg shared frame callInfo rtpPt gvPayload burstType clock
      slot).1.tx.Scheduled := by
  have outcome := generatePacket_cases cfg shared frame callInfo rtpPt gvPayload burstType clock slot
  exact outcome.scheduled scheduled

theorem emitHbpIpscStart_scheduled (dmr : DmrUtils) (cfg : Config) (shared : Shared) (frame : HbpFrame)
    (clock : Clock) {slot : Slot} (scheduled : slot.tx.Scheduled) :
    (emitHbpIpscStart dmr cfg shared frame clock slot).1.tx.Scheduled := by
  unfold emitHbpIpscStart
  split
  case isTrue => exact scheduled
  case isFalse =>
    exact emitHeads_invariant dmr cfg shared frame
      (truthyOr slot.inCall.lc (dmr.lcOpt ++ frame.dstGroup ++ frame.srcSub)) clock
      (fun _ _ after => after.tx.Scheduled)
      (fun _ _ _ before => generatePacket_scheduled cfg shared frame _ _ _ _ _ before)
      cfg.headerCount 0 [] slot scheduled

theorem continueVoice_scheduled (cfg : Config) (frame : HbpFrame) (clock : Clock) (shared : Shared)
    {slot : Slot} (scheduled : slot.tx.Scheduled) :
    (continueVoice dmr cfg frame clock shared slot).1.tx.Scheduled := by
  have start := emitHbpIpscStart_scheduled dmr cfg shared frame
    (fun reading => clock (2 + reading)) scheduled
  unfold continueVoice
  simp only
  split
  case h_1 => exact start
  case h_2 gvPayload built =>
    exact generatePacket_scheduled cfg shared frame frame.callInfo 0x5d gvPayload frame.slotBurst
      (fun reading => clock (12 + reading)) start

theorem sendHbpTerm_scheduled (cfg : Config) (frame : HbpFrame) (clock : Clock) (shared : Shared)
    {slot : Slot} (scheduled : slot.tx.Scheduled) :
    (sendHbpTerm dmr cfg frame clock shared slot).1.tx.Scheduled := by
  unfold sendHbpTerm
  exact generatePacket_scheduled cfg shared frame _ _ _ _ _ scheduled

theorem HbpOutcome.scheduled {cfg : Config} {frame : HbpFrame} {draw : RtpDraw} {clock : Clock}
    {shared : Shared} {slot : Slot} {result : Shared × Slot × List Action}
    (outcome : HbpOutcome dmr cfg frame draw clock shared slot result)
    (scheduled : slot.tx.Scheduled) : result.2.1.tx.Scheduled := by
  cases outcome with
  | foreignTerm | headMerged | endedSilent | voiceIgnored => exact scheduled
  | headOpened opened head fresh waits recorded =>
      subst recorded
      exact scheduled
  | headStarted opened head fresh atOnce recorded =>
      subst recorded
      exact emitHbpIpscStart_scheduled dmr cfg _ frame _ scheduled
  | ended =>
      exact (sendHbpTerm_scheduled cfg frame clock shared scheduled :
        (sendHbpTerm dmr cfg frame clock shared slot).1.tx.Scheduled)
  | voiceContinued => exact continueVoice_scheduled cfg frame clock shared scheduled
  | voiceOpened opened notHead notTerm closed flow recorded =>
      subst recorded
      exact continueVoice_scheduled cfg frame clock _ scheduled

/-- A drain leaves another drain pending exactly when it leaves a packet waiting. -/
theorem drainHbpToIpscQueue_scheduled (cfg : Config) (clock : Clock) (slot : Slot) :
    (drainHbpToIpscQueue cfg clock slot).1.tx.Scheduled := by
  have turn := drainHbpToIpscQueue_turn cfg clock slot
  generalize drainHbpToIpscQueue cfg clock slot = drained at turn
  rcases drained with ⟨after, actions⟩
  cases turn with
  | empty after idle drained =>
      obtain ⟨lockUntil, framed⟩ := hbpIpscQueueDrained_frame cfg (clock 0)
        { slot with tx.handle := none }
      rw [drained, framed]
      exact iff_of_false (fun absent => absent rfl) (fun waiting => waiting idle)
  | last entry sent after actions single passed drained =>
      obtain ⟨lockUntil, framed⟩ := hbpIpscQueueDrained_frame cfg (clock 3)
        { sent with tx.nextAt := clock 2 + cfg.frameInterval }
      have cancelled : sent.tx.handle = none := by rw [passed.tx]
      have drawn : sent.tx.queue = [] := by rw [passed.tx]
      rw [drained, framed]
      exact iff_of_false (fun absent => absent cancelled) (fun waiting => waiting drawn)
  | more entry next rest sent actions handle several passed =>
      have waiting : sent.tx.queue ≠ [] := by simp [passed.tx]
      exact iff_of_true (Option.some_ne_none handle) waiting

/-- A timeout clears the fields of each silent call together. -/
theorem Slot.Coherent.checkCallTimeouts {slot : Slot} (coherent : slot.Coherent dmr) (cfg : Config)
    (timeout : Time) (clock : Clock) (ts : Timeslot) :
    (checkCallTimeouts cfg timeout clock ts slot).Coherent dmr := by
  have out : (checkOutTimeout cfg timeout (clock 0) (clock (timeoutReading ts)) slot).Coherent dmr := by
    unfold checkOutTimeout
    split
    case isTrue => exact ⟨OutCall.coherent_of_closed rfl rfl rfl, coherent.inCall, coherent.tx⟩
    case isFalse => exact coherent
  unfold Ipsc2Hbp.checkCallTimeouts checkInTimeout
  split
  case isTrue => exact ⟨out.outCall, InCall.reset_coherent _, out.tx⟩
  case isFalse => exact out

/-- Clearing the calls of a slot makes it coherent. -/
theorem Slot.disconnect_coherent (dmr : DmrUtils) (slot : Slot) : (disconnectSlot slot).Coherent dmr where
  outCall := OutCall.coherent_of_closed rfl rfl rfl
  inCall := InCall.coherent_of_closed rfl rfl rfl rfl rfl rfl
  tx := iff_of_false (fun absent => absent rfl) (fun waiting => waiting rfl)

/-- An HBP frame keeps the call records coherent. -/
theorem Slot.Coherent.hbpFrameReceived {slot : Slot} (coherent : slot.Coherent dmr) (cfg : Config)
    (frame : HbpFrame) (draw : RtpDraw) (clock : Clock) (shared : Shared) :
    (hbpFrameReceived dmr cfg frame draw clock shared slot).2.1.Coherent dmr := by
  obtain ⟨blocked, lock, -, received⟩ := hbpFrameReceived_cases dmr cfg frame draw clock shared slot
  have stamped : ({ slot.inCall with lastPkt := clock 0 } : InCall).Coherent dmr :=
    ⟨coherent.inCall.embLc, coherent.inCall.hbpStream, coherent.inCall.srcSub,
      coherent.inCall.dstGroup, coherent.inCall.started⟩
  rw [received]
  cases blocked with
  | true => exact ⟨coherent.outCall, stamped, coherent.tx⟩
  | false =>
      have outcome := hbpAdmitted_cases dmr cfg frame draw clock shared
        { slot with inCall.lastPkt := clock 0, lock := lock }
      refine ⟨?_, outcome.coherent stamped, outcome.scheduled coherent.tx⟩
      simp only [Bool.false_eq_true, if_false, outcome.side.outCall]
      exact coherent.outCall

/-- Every step of a slot keeps its call records coherent. -/
theorem Slot.Coherent.slotStep {slot : Slot} (coherent : slot.Coherent dmr) (cfg : Config)
    (ts : Timeslot) (shared : Shared) (part : SlotEvent) :
    (slotStep dmr cfg ts shared slot part).2.1.Coherent dmr := by
  cases part with
  | ipscVoice connected data burstType urandom clock =>
      obtain ⟨inCall, tx, -⟩ := ipscVoiceReceived_inbound dmr cfg connected data ts burstType urandom
        clock shared slot
      refine ⟨coherent.outCall.ipscVoiceReceived cfg connected data ts burstType urandom clock
        shared, ?_, ?_⟩
      · exact inCall ▸ coherent.inCall
      · exact tx ▸ coherent.tx
  | hbpFrame frame draw clock => exact coherent.hbpFrameReceived cfg frame draw clock shared
  | drain clock =>
      have outcome := drainHbpToIpscQueue_cases cfg clock slot
      refine ⟨?_, ?_, drainHbpToIpscQueue_scheduled cfg clock slot⟩
      · exact outcome.side.outCall ▸ coherent.outCall
      · exact outcome.inCall ▸ coherent.inCall
  | checkCallTimeouts timeout clock => exact coherent.checkCallTimeouts cfg timeout clock ts
  | peerLost | hbpDisconnected =>
      have cleared := Slot.disconnect_coherent dmr slot
      exact ⟨cleared.outCall, cleared.inCall, cleared.tx⟩

/-- The call records of both timeslots are coherent in every reachable state. -/
theorem slot_coherent (cfg : Config) (events : List Event) (ts : Timeslot) :
    (((translator dmr cfg).run Translator.initial events).1.slot ts).Coherent dmr :=
  slot_run_always dmr cfg ts (fun _ slot => slot.Coherent dmr)
    (fun _ shared _ part _ _ coherent => coherent.slotStep cfg ts shared part) events
    ⟨OutCall.coherent_of_closed rfl rfl rfl, InCall.coherent_of_closed rfl rfl rfl rfl rfl rfl,
      iff_of_false (fun absent => absent rfl) (fun waiting => waiting rfl)⟩

/-- In every reachable state and on each timeslot the fields of a call are set or cleared together,
only an open inbound call has started, the embedded LCs encode the stored LCs, a drain is pending
exactly while a packet waits, and the counters are in range. -/
theorem call_records_coherent (dmr : DmrUtils) (cfg : Config) (events : List Event)
    (ts : Timeslot) :
    let state := ((translator dmr cfg).run Translator.initial events).1
    let outCall := (state.slot ts).outCall
    let inCall := (state.slot ts).inCall
    let tx := (state.slot ts).tx
    ((outCall.streamId = none ∧ outCall.lc = none ∧ outCall.embLc = none) ∨
      (outCall.streamId ≠ none ∧ outCall.lc ≠ none ∧ outCall.embLc ≠ none)) ∧
    ((inCall.lc = none ∧ inCall.embLc = none ∧ inCall.hbpStream = none ∧ inCall.srcSub = none ∧
        inCall.dstGroup = none) ∨
      (inCall.lc ≠ none ∧ inCall.embLc ≠ none ∧ inCall.hbpStream ≠ none ∧ inCall.srcSub ≠ none ∧
        inCall.dstGroup ≠ none)) ∧
    (inCall.started = true → inCall.lc ≠ none) ∧
    (∀ embLc ∈ outCall.embLc, ∃ lc ∈ outCall.lc, embLc = dmr.encodeEmblc lc) ∧
    (∀ embLc ∈ inCall.embLc, ∃ lc ∈ inCall.lc, embLc = dmr.encodeEmblc lc) ∧
    (tx.handle ≠ none ↔ tx.queue ≠ []) ∧
    state.shared.outSeq.toNat ≤ 255 ∧ state.shared.inStreamCtr.toNat ≤ 255 ∧
    inCall.streamId.toNat ≤ 255 ∧ (∀ streamByte ∈ outCall.ipscStreamByte, streamByte.toNat ≤ 255) ∧
    inCall.rtpSeq.toNat ≤ 2 ^ 16 - 1 ∧ inCall.rtpTs.toNat ≤ 2 ^ 32 - 1 := by
  intro state outCall inCall tx
  have coherent : (state.slot ts).Coherent dmr := slot_coherent cfg events ts
  have out : outCall.Coherent dmr := coherent.outCall
  have inn : inCall.Coherent dmr := coherent.inCall
  have byte : ∀ value : UInt8, value.toNat ≤ 255 := fun value => Nat.le_of_lt_succ value.toNat_lt
  refine ⟨?_, ?_, ?_, ?_, ?_, coherent.tx, byte _, byte _, byte _, fun value _ => byte value,
    Nat.le_of_lt_succ inCall.rtpSeq.toNat_lt, Nat.le_of_lt_succ inCall.rtpTs.toNat_lt⟩
  · have stored := out.lc
    rw [out.embLc]
    cases lc : outCall.lc with
    | none => exact .inl ⟨by simpa [lc] using stored, rfl, rfl⟩
    | some value =>
        exact .inr ⟨by simpa [lc, Option.isSome_iff_ne_none] using stored, by simp, by simp⟩
  · obtain ⟨embLc, hbpStream, srcSub, dstGroup, -⟩ := inn
    rw [embLc]
    cases lc : inCall.lc with
    | none =>
        rw [lc, Option.isSome_none, Option.isSome_eq_false_iff, Option.isNone_iff_eq_none]
          at hbpStream srcSub dstGroup
        exact .inl ⟨rfl, rfl, hbpStream, srcSub, dstGroup⟩
    | some value =>
        rw [lc, Option.isSome_some, Option.isSome_iff_ne_none] at hbpStream srcSub dstGroup
        exact .inr ⟨by simp, by simp, hbpStream, srcSub, dstGroup⟩
  · intro started
    exact Option.isSome_iff_ne_none.mp (inn.started started)
  · intro embLc stored
    rw [out.embLc] at stored
    obtain ⟨lc, found, encoded⟩ := Option.map_eq_some_iff.mp stored
    exact ⟨lc, found, encoded.symm⟩
  · intro embLc stored
    rw [inn.embLc] at stored
    obtain ⟨lc, found, encoded⟩ := Option.map_eq_some_iff.mp stored
    exact ⟨lc, found, encoded.symm⟩

end Ipsc2Hbp
