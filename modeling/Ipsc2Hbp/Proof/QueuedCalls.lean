import Ipsc2Hbp.Proof.SlotStep

namespace Ipsc2Hbp
open BigEndian

/-- No call is open. -/
def InCall.Closed (inCall : InCall) : Prop := inCall.lc = none ∧ inCall.started = false

/-- The call is started and not ended, or packets of it wait in the queue. -/
def Transmitting (call : Nat) (slot : Slot) : Prop :=
  (slot.inCall.started = true ∧ slot.inCall.serial = call) ∨
    ∃ entry ∈ slot.tx.queue, entry.call = call

/-- The call was opened before, it is over, and none of its packets wait. -/
structure Finished (call : Nat) (slot : Slot) : Prop where
  counted : call ≤ slot.inCall.serial
  closed : slot.inCall.serial = call → slot.inCall.Closed
  drained : ∀ entry ∈ slot.tx.queue, entry.call ≠ call

theorem Finished.not_transmitting {call : Nat} {slot : Slot} (finished : Finished call slot) :
    ¬ Transmitting call slot := by
  rintro (⟨started, current⟩ | ⟨entry, waits, own⟩)
  · exact Bool.noConfusion ((finished.closed current).2.symm.trans started)
  · exact finished.drained entry waits own

/-- A step counts calls upwards. What joins the queue belongs to the call that is then open, and a
closed call stays closed. -/
structure CallsOn (before after : Slot) (actions : List Action) : Prop where
  serial : before.inCall.serial ≤ after.inCall.serial
  closed : after.inCall.serial = before.inCall.serial → before.inCall.Closed → after.inCall.Closed
  queue : ∀ entry ∈ after.tx.queue, entry ∈ before.tx.queue ∨ (entry.call = after.inCall.serial ∧
    (after.inCall.serial = before.inCall.serial → ¬ before.inCall.Closed))
  sent : ∀ entry, .sendToPeer entry ∈ actions →
    entry ∈ before.tx.queue ∨ entry.call = after.inCall.serial

/-- A finished call stays finished. -/
theorem CallsOn.finished {before after : Slot} {actions : List Action}
    (step : CallsOn before after actions) {call : Nat} (finished : Finished call before) :
    Finished call after := by
  refine ⟨finished.counted.trans step.serial, fun current => ?_, fun entry waits own => ?_⟩
  · have same : after.inCall.serial = before.inCall.serial :=
      le_antisymm (current.trans_le finished.counted) step.serial
    exact step.closed same (finished.closed (same.symm.trans current))
  · rcases step.queue entry waits with early | ⟨fresh, opened⟩
    · exact finished.drained entry early own
    · have current : after.inCall.serial = call := fresh.symm.trans own
      have same : after.inCall.serial = before.inCall.serial :=
        le_antisymm (current.trans_le finished.counted) step.serial
      exact opened same (finished.closed (same.symm.trans current))

/-- The packets that wait belong to calls that were opened. -/
def QueueCounted (slot : Slot) : Prop := ∀ entry ∈ slot.tx.queue, entry.call ≤ slot.inCall.serial

theorem CallsOn.counted {before after : Slot} {actions : List Action}
    (step : CallsOn before after actions) (counted : QueueCounted before) :
    QueueCounted after := by
  intro entry waits
  rcases step.queue entry waits with early | ⟨fresh, -⟩
  · exact (counted entry early).trans step.serial
  · exact fresh.le

/-- A packet that is sent belongs to a call that was opened. -/
theorem CallsOn.sent_counted {before after : Slot} {actions : List Action}
    (step : CallsOn before after actions) (counted : QueueCounted before) {entry : QueueEntry}
    (sent : .sendToPeer entry ∈ actions) : entry.call ≤ after.inCall.serial := by
  rcases step.sent entry sent with early | fresh
  · exact (counted entry early).trans step.serial
  · exact fresh.le

/-- A step that generates nothing keeps or closes the call and takes nothing into the queue. -/
theorem CallsOn.quiet {before after : Slot} {actions : List Action}
    (serial : after.inCall.serial = before.inCall.serial)
    (closed : before.inCall.Closed → after.inCall.Closed)
    (queue : ∀ entry ∈ after.tx.queue, entry ∈ before.tx.queue)
    (silent : ∀ entry, .sendToPeer entry ∉ actions) : CallsOn before after actions :=
  ⟨serial.ge, fun _ => closed, fun entry waits => .inl (queue entry waits),
    fun entry sent => absurd sent (silent entry)⟩

/-- A part of a step generates packets of its own call only. -/
structure GeneratesCall (before after : Slot) (actions : List Action) : Prop where
  continues : after.inCall.Continues before.inCall
  queue : ∀ entry ∈ after.tx.queue, entry ∈ before.tx.queue ∨ entry.call = before.inCall.serial
  sent : ∀ entry, .sendToPeer entry ∈ actions → entry.call = before.inCall.serial

theorem GeneratesCall.refl (slot : Slot) : GeneratesCall slot slot [] :=
  ⟨.refl _, fun _ waits => .inl waits, by simp⟩

theorem GeneratesCall.trans {before middle after : Slot} {first second : List Action}
    (one : GeneratesCall before middle first) (two : GeneratesCall middle after second) :
    GeneratesCall before after (first ++ second) := by
  refine ⟨two.continues.trans one.continues, fun entry waits => ?_, fun entry sent => ?_⟩
  · rcases two.queue entry waits with early | fresh
    · exact one.queue entry early
    · exact .inr (fresh.trans one.continues.serial)
  · rcases List.mem_append.mp sent with early | late
    · exact one.sent entry early
    · exact (two.sent entry late).trans one.continues.serial

/-- A part of an open call, or of one that the step opens, is a step. -/
theorem GeneratesCall.callsOn {before opened after : Slot} {actions : List Action}
    (part : GeneratesCall opened after actions) (queue : opened.tx = before.tx)
    (serial : before.inCall.serial ≤ opened.inCall.serial)
    (live : opened.inCall.serial = before.inCall.serial → ¬ before.inCall.Closed) :
    CallsOn before after actions := by
  have current := part.continues.serial
  refine ⟨serial.trans_eq current.symm, fun same closed => ?_, fun entry waits => ?_,
    fun entry sent => .inr ((part.sent entry sent).trans current.symm)⟩
  · exact absurd closed (live (current.symm.trans same))
  · rcases part.queue entry waits with early | fresh
    · exact .inl (queue ▸ early)
    · exact .inr ⟨fresh.trans current.symm, fun same => live (current.symm.trans same)⟩

theorem generatePacket_ofCall (cfg : Config) (shared : Shared) (frame : HbpFrame)
    (callInfo rtpPt : UInt8) (gvPayload : Bytes) (burstType : UInt8) (clock : Clock) (slot : Slot) :
    GeneratesCall slot
      (generatePacket cfg shared frame callInfo rtpPt gvPayload burstType clock slot).1
      (generatePacket cfg shared frame callInfo rtpPt gvPayload burstType clock slot).2 := by
  have outcome := generatePacket_cases cfg shared frame callInfo rtpPt gvPayload burstType clock slot
  have continues : (generatePacket cfg shared frame callInfo rtpPt gvPayload burstType clock
      slot).1.inCall.Continues slot.inCall := by
    rw [generatePacket_inCall]
    exact slot.inCall.advance_continues
  generalize generatePacket cfg shared frame callInfo rtpPt gvPayload burstType clock slot = sent
    at outcome continues
  rcases sent with ⟨after, actions⟩
  cases outcome with
  | direct after actions unpaced sent =>
      cases sent with
      | busy => exact ⟨continues, fun _ waits => .inl waits, by simp⟩
      | sent =>
          refine ⟨continues, fun _ waits => .inl waits, fun entry member => ?_⟩
          obtain rfl : entry = callEntry cfg shared frame callInfo rtpPt gvPayload burstType slot.inCall := by
            simpa using member
          rfl
  | full => exact ⟨continues, fun _ waits => .inl waits, by simp⟩
  | queued =>
      refine ⟨continues, fun entry waits => ?_, by simp⟩
      rcases List.mem_append.mp waits with early | new
      · exact .inl early
      · rw [List.mem_singleton.mp new]
        exact .inr rfl

theorem emitHbpIpscStart_ofCall (dmr : DmrUtils) (cfg : Config) (shared : Shared)
    (frame : HbpFrame) (clock : Clock) (slot : Slot) :
    GeneratesCall slot (emitHbpIpscStart dmr cfg shared frame clock slot).1
      (emitHbpIpscStart dmr cfg shared frame clock slot).2 := by
  have continues := emitHbpIpscStart_continues dmr cfg shared frame clock slot
  unfold emitHbpIpscStart at continues ⊢
  split
  case isTrue => exact .refl slot
  case isFalse =>
    have heads := emitHeads_invariant dmr cfg shared frame
      (truthyOr slot.inCall.lc (dmr.lcOpt ++ frame.dstGroup ++ frame.srcSub)) clock
      (fun _ actions after => GeneratesCall slot after actions)
      (fun _ _ _ before => before.trans (generatePacket_ofCall ..)) cfg.headerCount 0 [] slot
      (.refl slot)
    rw [if_neg (by assumption)] at continues
    exact ⟨continues, heads.queue, heads.sent⟩

theorem continueVoice_ofCall (dmr : DmrUtils) (cfg : Config) (frame : HbpFrame) (clock : Clock)
    (shared : Shared) (slot : Slot) :
    GeneratesCall slot (continueVoice dmr cfg frame clock shared slot).1
      (continueVoice dmr cfg frame clock shared slot).2 := by
  have start := emitHbpIpscStart_ofCall dmr cfg shared frame (fun reading => clock (2 + reading))
    slot
  unfold continueVoice
  simp only
  split
  case h_1 err failed => exact start.trans ⟨.refl _, fun _ waits => .inl waits, by simp⟩
  case h_2 gvPayload built =>
    have voice := generatePacket_ofCall cfg shared frame frame.callInfo 0x5d gvPayload
      frame.slotBurst (fun reading => clock (12 + reading))
      (emitHbpIpscStart dmr cfg shared frame (fun reading => clock (2 + reading)) slot).1
    exact start.trans voice

/-- What an admitted frame does to the calls. -/
theorem HbpOutcome.callsOn {dmr : DmrUtils} {cfg : Config} {frame : HbpFrame} {draw : RtpDraw}
    {clock : Clock} {shared : Shared} {slot : Slot} {result : Shared × Slot × List Action}
    (outcome : HbpOutcome dmr cfg frame draw clock shared slot result) :
    CallsOn slot result.2.1 result.2.2 := by
  have another (lc : Bytes) : (openHbpCall dmr frame lc draw (clock 0) shared slot).2.inCall.serial =
      slot.inCall.serial + 1 := rfl
  cases outcome with
  | foreignTerm | voiceIgnored => exact .quiet rfl id (fun _ => id) (by simp)
  | headMerged head duplicate =>
      unfold duplicateHead at duplicate
      have opened : slot.inCall.lc.isSome = true := (Bool.and_eq_true_iff.mp duplicate).1
      refine .quiet rfl (fun closed => ?_) (fun _ => id) (by simp)
      rw [closed.1] at opened
      cases opened
  | endedSilent => exact .quiet rfl (fun _ => ⟨rfl, rfl⟩) (fun _ => id) (by simp)
  | headOpened opened head fresh waits recorded =>
      subst recorded
      exact (GeneratesCall.refl _).callsOn rfl (Nat.le_succ _) fun same =>
        absurd same (Nat.succ_ne_self _)
  | headStarted opened head fresh atOnce recorded =>
      subst recorded
      exact (emitHbpIpscStart_ofCall ..).callsOn rfl (Nat.le_succ _) fun same =>
        absurd same (Nat.succ_ne_self _)
  | ended term started =>
      have sent : CallsOn slot (sendHbpTerm dmr cfg frame clock shared slot).1
          (sendHbpTerm dmr cfg frame clock shared slot).2 :=
        (generatePacket_ofCall ..).callsOn rfl le_rfl fun _ closed =>
          Bool.noConfusion (closed.2.symm.trans started)
      exact ⟨sent.serial, fun _ _ => ⟨rfl, rfl⟩, sent.queue, sent.sent⟩
  | voiceContinued notHead notTerm opened =>
      refine (continueVoice_ofCall ..).callsOn rfl le_rfl fun _ closed => ?_
      rw [closed.1] at opened
      cases opened
  | voiceOpened opened notHead notTerm closed flow recorded =>
      subst recorded
      exact (continueVoice_ofCall ..).callsOn rfl (Nat.le_succ _) fun same =>
        absurd same (Nat.succ_ne_self _)

/-- The queue only shrinks by the packet that is sent. -/
theorem drainHbpToIpscQueue_callsOn (cfg : Config) (clock : Clock) (slot : Slot) :
    CallsOn slot (drainHbpToIpscQueue cfg clock slot).1 (drainHbpToIpscQueue cfg clock slot).2 := by
  have outcome := drainHbpToIpscQueue_cases cfg clock slot
  have call := outcome.inCall
  generalize drainHbpToIpscQueue cfg clock slot = drained at outcome call
  rcases drained with ⟨after, actions⟩
  have serial := (congrArg InCall.serial call).ge
  have closed : slot.inCall.Closed → after.inCall.Closed := fun closed => by rwa [call]
  cases outcome with
  | empty => exact .quiet rfl closed (fun _ => id) (by simp)
  | taken entry rest sent actions handle nextAt lockUntil first passed =>
      have left : sent.tx.queue = rest := by rw [passed.tx]
      refine ⟨serial, fun _ => closed, fun other waits => .inl ?_, fun other member => .inl ?_⟩
      · change other ∈ sent.tx.queue at waits
        rw [left] at waits
        exact first ▸ List.mem_cons_of_mem entry waits
      · cases passed with
        | busy => simp at member
        | sent =>
            obtain rfl : other = entry := by simpa using member
            exact first ▸ List.mem_cons_self

/-- The timeouts end calls only. -/
theorem checkCallTimeouts_callsOn (cfg : Config) (timeout : Time) (clock : Clock) (ts : Timeslot)
    (slot : Slot) : CallsOn slot (checkCallTimeouts cfg timeout clock ts slot) [] := by
  have queue := checkCallTimeouts_tx cfg timeout clock ts slot
  rcases (checkCallTimeouts_frame cfg timeout clock ts slot).2 with same | reset
  · refine .quiet (congrArg InCall.serial same) (fun closed => ?_) (fun entry waits => ?_) (by simp)
    · rwa [same]
    · rwa [queue] at waits
  · have serial : (checkCallTimeouts cfg timeout clock ts slot).inCall.serial = slot.inCall.serial := by
      rw [reset]
      rfl
    refine .quiet serial (fun _ => ?_) (fun entry waits => ?_) (by simp)
    · rw [reset]
      exact ⟨rfl, rfl⟩
    · rwa [queue] at waits

/-- What a callback does to the calls of its timeslot. -/
theorem slotStep_callsOn (dmr : DmrUtils) (cfg : Config) (ts : Timeslot) (shared : Shared)
    (slot : Slot) (part : SlotEvent) :
    CallsOn slot (slotStep dmr cfg ts shared slot part).2.1
      (slotStep dmr cfg ts shared slot part).2.2 := by
  cases part with
  | ipscVoice connected data burstType urandom clock =>
      obtain ⟨inCall, tx, fromIpsc⟩ := ipscVoiceReceived_inbound dmr cfg connected data ts burstType
        urandom clock shared slot
      change CallsOn slot (ipscVoiceReceived dmr cfg connected data ts burstType urandom clock shared
        slot).2.1 (ipscVoiceReceived dmr cfg connected data ts burstType urandom clock shared slot).2.2
      refine .quiet (congrArg InCall.serial inCall) (fun closed => ?_) (fun entry waits => ?_)
        fun entry sent => ?_
      · rwa [inCall]
      · rwa [tx] at waits
      · exact fromIpsc _ sent
  | hbpFrame frame draw clock =>
      obtain ⟨blocked, lock, -, received⟩ :=
        hbpFrameReceived_cases dmr cfg frame draw clock shared slot
      change CallsOn slot (hbpFrameReceived dmr cfg frame draw clock shared slot).2.1
        (hbpFrameReceived dmr cfg frame draw clock shared slot).2.2
      rw [received]
      cases blocked with
      | true => exact .quiet rfl id (fun _ => id) (by simp)
      | false =>
          have outcome := (hbpAdmitted_cases dmr cfg frame draw clock shared
            { slot with inCall.lastPkt := clock 0, lock := lock }).callsOn
          exact ⟨outcome.serial, outcome.closed, outcome.queue, outcome.sent⟩
  | drain clock => exact drainHbpToIpscQueue_callsOn cfg clock slot
  | checkCallTimeouts timeout clock => exact checkCallTimeouts_callsOn cfg timeout clock ts slot
  | peerLost | hbpDisconnected => exact .quiet rfl (fun _ => ⟨rfl, rfl⟩) (by simp [slotStep,
      peerLostSlot, disconnectSlot, clearIpscTxQueue]) (by simp [slotStep])

end Ipsc2Hbp
