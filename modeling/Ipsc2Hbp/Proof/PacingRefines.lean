import Ipsc2Hbp.Proof.PacingQueue

namespace Ipsc2Hbp
open BigEndian

/-- A timeslot whose scheduled drain the event loop holds. -/
def Slot.held (slot : Slot) : PacedSlot := ⟨slot, slot.tx.handle.toList⟩

theorem PacedSlot.eq_held {paced : PacedSlot}
    (held : paced.callbacks = paced.slot.tx.handle.toList) : paced = paced.slot.held := by
  rw [Slot.held, ← held]

/-- The actions that pass packets through the pacing. -/
def Action.paced : Action → Bool
  | .generate _ | .queueFull _ | .slotBusy _ | .sendToPeer _ => true
  | .openStream .. | .sendDmrd _ | .raised _ => false

/-- Work on a timeslot is a run of its pacer, in which only scheduled drains run. -/
def Paces (cfg : Config) (before : Slot) (result : Slot × List Action) : Prop :=
  ∃ events, (pacer cfg).Meets (fun _ paced event => event.Fires paced) [] before.held events ∧
    (pacer cfg).run before.held events = (result.1.held, result.2.filter Action.paced)

/-- The actions of the IPSC side pass no packet through the pacing. -/
theorem filter_paced_fromIpsc {actions : List Action}
    (fromIpsc : ∀ action ∈ actions, action.FromIpsc) : actions.filter Action.paced = [] := by
  apply List.filter_eq_nil_iff.mpr
  intro action member
  have barred := fromIpsc action member
  cases action with
  | openStream | sendDmrd | raised => exact Bool.false_ne_true
  | generate | queueFull | slotBusy | sendToPeer => cases barred

variable {cfg : Config}

/-- One event of the pacer is a run of it. -/
theorem Paces.event (enabled : cfg.hbpToIpscPacing = true) {before : Slot}
    {result : Slot × List Action} (event : TxEvent) (fires : event.Fires before.held)
    (state : (before.held.step cfg event).1.slot = result.1)
    (actions : (before.held.step cfg event).2 = result.2.filter Action.paced) :
    Paces cfg before result := by
  have callbacks : (before.held.step cfg event).1.callbacks =
      (before.held.step cfg event).1.slot.tx.handle.toList :=
    PacedSlot.step_callbacks enabled rfl fires
  have image : (before.held.step cfg event).1 = result.1.held := by
    rw [← state]
    exact PacedSlot.eq_held callbacks
  refine ⟨[event], ⟨fires, trivial⟩, ?_⟩
  rw [Mealy.run_cons, Mealy.run_nil, List.append_nil]
  exact Prod.ext image actions

/-- Two pieces of work make one. -/
theorem Paces.trans {before middle : Slot} {first : List Action} {result : Slot × List Action}
    (one : Paces cfg before (middle, first)) (two : Paces cfg middle result) :
    Paces cfg before (result.1, first ++ result.2) := by
  obtain ⟨firstEvents, firstMet, firstRun⟩ := one
  obtain ⟨secondEvents, secondMet, secondRun⟩ := two
  refine ⟨firstEvents ++ secondEvents, ?_, ?_⟩
  · rw [Mealy.meets_append, firstRun]
    exact ⟨firstMet, ((pacer cfg).meets_log _ _ _ _ _).mp secondMet⟩
  · rw [Mealy.run_append, firstRun, secondRun, List.filter_append]

/-- Work that keeps the pacing state passes no packet on. -/
theorem Paces.other (enabled : cfg.hbpToIpscPacing = true) {before : Slot}
    {result : Slot × List Action} (tx : result.1.tx = before.tx)
    (actions : result.2.filter Action.paced = []) : Paces cfg before result := by
  apply Paces.event enabled (.other result.1)
  · trivial
  · change { result.1 with tx := before.tx } = result.1
    rw [← tx]
  · exact actions.symm

/-- A packet that is passed on is one event. -/
theorem Paces.send (enabled : cfg.hbpToIpscPacing = true) (entry : QueueEntry) (clock : Clock)
    (slot : Slot) : Paces cfg slot (sendHbpToIpsc cfg entry clock slot) := by
  apply Paces.event enabled (.send entry clock)
  · trivial
  · rfl
  · have outcome := sendHbpToIpsc_cases cfg entry clock slot
    change (sendHbpToIpsc cfg entry clock slot).2 = _
    generalize (sendHbpToIpsc cfg entry clock slot).1 = after at outcome
    generalize (sendHbpToIpsc cfg entry clock slot).2 = actions at outcome ⊢
    cases outcome with
    | direct after actions unpaced => exact absurd (unpaced.symm.trans enabled) Bool.false_ne_true
    | full | queued => rfl

/-- The rest of a piece of work keeps the pacing state. -/
theorem Paces.rest (enabled : cfg.hbpToIpscPacing = true) {before middle after : Slot}
    {actions : List Action} (paces : Paces cfg before (middle, actions)) (tx : after.tx = middle.tx) :
    Paces cfg before (after, actions) := by
  have more : Paces cfg middle (after, []) := Paces.other enabled tx rfl
  simpa using paces.trans more

/-- A drain that is scheduled is one event. -/
theorem Paces.drain (enabled : cfg.hbpToIpscPacing = true) (clock : Clock) {slot : Slot}
    (scheduled : slot.tx.handle.isSome = true) :
    Paces cfg slot (drainHbpToIpscQueue cfg clock slot) := by
  obtain ⟨handle, pending⟩ := Option.isSome_iff_exists.mp scheduled
  apply Paces.event enabled (.drain handle clock)
  · change handle ∈ slot.tx.handle.toList
    rw [pending]
    exact List.mem_singleton_self handle
  · rfl
  · have outcome := drainHbpToIpscQueue_cases cfg clock slot
    change (drainHbpToIpscQueue cfg clock slot).2 = _
    generalize (drainHbpToIpscQueue cfg clock slot).1 = after at outcome
    generalize (drainHbpToIpscQueue cfg clock slot).2 = actions at outcome ⊢
    cases outcome with
    | empty => rfl
    | taken entry rest sent actions handle nextAt lockUntil first passed =>
        cases passed with
        | busy | sent => rfl

/-- A reset is one event. -/
theorem Paces.clear (enabled : cfg.hbpToIpscPacing = true) {slot after : Slot}
    (tx : after.tx = clearIpscTxQueue slot.tx) : Paces cfg slot (after, []) := by
  have cleared : Paces cfg slot ({ slot with tx := clearIpscTxQueue slot.tx }, []) :=
    Paces.event enabled .clear trivial rfl rfl
  exact cleared.rest enabled tx

section Handlers
variable (dmr : DmrUtils) (enabled : cfg.hbpToIpscPacing = true) (shared : Shared)
  (frame : HbpFrame) (clock : Clock) (slot : Slot)
include enabled

theorem generatePacket_paces (callInfo rtpPt : UInt8) (gvPayload : Bytes) (burstType : UInt8) :
    Paces cfg slot (generatePacket cfg shared frame callInfo rtpPt gvPayload burstType clock slot) := by
  have made : Paces cfg slot ({ slot with inCall := slot.inCall.advance }, []) :=
    Paces.other enabled rfl rfl
  have sent := Paces.send enabled (callEntry cfg shared frame callInfo rtpPt gvPayload burstType
    slot.inCall) clock { slot with inCall := slot.inCall.advance }
  exact made.trans sent

theorem emitHbpIpscStart_paces : Paces cfg slot (emitHbpIpscStart dmr cfg shared frame clock slot) := by
  unfold emitHbpIpscStart
  split
  case isTrue => exact Paces.other enabled rfl rfl
  case isFalse =>
    have heads := emitHeads_invariant dmr cfg shared frame
      (truthyOr slot.inCall.lc (dmr.lcOpt ++ frame.dstGroup ++ frame.srcSub)) clock
      (fun _ log after => Paces cfg slot (after, log))
      (fun _ _ _ paces => paces.trans (generatePacket_paces enabled ..)) cfg.headerCount 0 [] slot
      (Paces.other enabled rfl rfl)
    rw [List.nil_append] at heads
    exact heads.rest enabled rfl

theorem continueVoice_paces : Paces cfg slot (continueVoice dmr cfg frame clock shared slot) := by
  have start := emitHbpIpscStart_paces dmr enabled shared frame (fun reading => clock (2 + reading))
    slot
  unfold continueVoice
  generalize emitHbpIpscStart dmr cfg shared frame (fun reading => clock (2 + reading)) slot = started
    at start ⊢
  simp only
  split
  case h_1 err failed =>
    have raised : Paces cfg started.1 (started.1, [.raised err]) := Paces.other enabled rfl rfl
    exact start.trans raised
  case h_2 gvPayload built => exact start.trans (generatePacket_paces enabled ..)

/-- A frame that the lock lets in passes packets on, and its other work keeps the pacing state. -/
theorem HbpOutcome.paces {draw : RtpDraw} {result : Shared × Slot × List Action}
    (outcome : HbpOutcome dmr cfg frame draw clock shared slot result) : Paces cfg slot result.2 := by
  cases outcome with
  | foreignTerm | headMerged | endedSilent | voiceIgnored => exact Paces.other enabled rfl rfl
  | headOpened opened head fresh waits recorded =>
      subst recorded
      exact Paces.other enabled rfl rfl
  | headStarted opened head fresh atOnce recorded =>
      subst recorded
      have opened : Paces cfg slot ((openHbpCall dmr frame (decodeHbpVoiceLc dmr frame.payload) draw
        (clock 0) shared slot).2, []) := Paces.other enabled rfl rfl
      exact opened.trans (emitHbpIpscStart_paces dmr enabled ..)
  | ended =>
      have sent : Paces cfg slot (sendHbpTerm dmr cfg frame clock shared slot) :=
        generatePacket_paces enabled ..
      exact sent.rest enabled rfl
  | voiceContinued => exact continueVoice_paces dmr enabled ..
  | voiceOpened opened notHead notTerm closed flow recorded =>
      subst recorded
      have opened : Paces cfg slot ((openHbpCall dmr frame (frameLc dmr frame) draw (clock 0) shared
        slot).2, []) := Paces.other enabled rfl rfl
      exact opened.trans (continueVoice_paces dmr enabled ..)

theorem hbpFrameReceived_paces (draw : RtpDraw) :
    Paces cfg slot (hbpFrameReceived dmr cfg frame draw clock shared slot).2 := by
  obtain ⟨blocked, lock, -, received⟩ := hbpFrameReceived_cases dmr cfg frame draw clock shared slot
  rw [received]
  cases blocked with
  | true => exact Paces.other enabled rfl rfl
  | false =>
      have asked : Paces cfg slot ({ slot with inCall.lastPkt := clock 0, lock := lock }, []) :=
        Paces.other enabled rfl rfl
      have outcome := hbpAdmitted_cases dmr cfg frame draw clock shared
        { slot with inCall.lastPkt := clock 0, lock := lock }
      exact asked.trans (outcome.paces dmr enabled)

end Handlers

/-- The event loop runs a drain of the timeslot only when one is scheduled. -/
def SlotEvent.Fires (slot : Slot) : SlotEvent → Prop
  | .drain _ => slot.tx.handle.isSome = true
  | .ipscVoice .. | .hbpFrame .. | .checkCallTimeouts .. | .peerLost | .hbpDisconnected => True

/-- Every step of a timeslot is a run of its pacer. -/
theorem slotStep_paces (dmr : DmrUtils) (enabled : cfg.hbpToIpscPacing = true) (ts : Timeslot)
    (shared : Shared) {slot : Slot} {part : SlotEvent} (fires : part.Fires slot) :
    Paces cfg slot (slotStep dmr cfg ts shared slot part).2 := by
  cases part with
  | ipscVoice connected data burstType urandom clock =>
      obtain ⟨-, tx, fromIpsc⟩ := ipscVoiceReceived_inbound dmr cfg connected data ts burstType urandom
        clock shared slot
      exact Paces.other enabled tx (filter_paced_fromIpsc fromIpsc)
  | hbpFrame frame draw clock => exact hbpFrameReceived_paces dmr enabled shared frame clock slot draw
  | drain clock => exact Paces.drain enabled clock fires
  | checkCallTimeouts timeout clock =>
      exact Paces.other enabled (checkCallTimeouts_tx cfg timeout clock ts slot) rfl
  | peerLost | hbpDisconnected => exact Paces.clear enabled rfl

/-- What a log of the translator passes through the pacing of a timeslot. -/
def pacedActions (ts : Timeslot) (log : List Output) : List Action :=
  (slotActions ts log).filter Action.paced

/-- Every step of the translator is on each timeslot a run of the pacer. -/
theorem step_paces (dmr : DmrUtils) (enabled : cfg.hbpToIpscPacing = true) (ts : Timeslot)
    (tr : Translator) (event : Event)
    (fires : ∀ part ∈ event.atSlot ts, part.Fires (tr.slot ts)) :
    ∃ steps, (pacer cfg).Meets (fun _ paced event => event.Fires paced) [] (tr.slot ts).held steps ∧
      (pacer cfg).run (tr.slot ts).held steps =
        (((Translator.step dmr cfg tr event).1.slot ts).held,
          pacedActions ts (Translator.step dmr cfg tr event).2) := by
  cases seen : event.atSlot ts with
  | none =>
      obtain ⟨state, silent⟩ := Translator.step_unseen dmr cfg tr seen
      refine ⟨[], trivial, ?_⟩
      rw [state, pacedActions, silent]
      rfl
  | some part =>
      obtain ⟨state, actions⟩ := Translator.step_seen dmr cfg tr seen
      rw [state, pacedActions, actions]
      exact slotStep_paces dmr enabled ts tr.shared (fires part seen)

/-- With pacing on, every run of the translator whose drains are scheduled is on each timeslot a run
of the pacer, which passes the same packets on. -/
theorem translator_refines_pacer (dmr : DmrUtils) (enabled : cfg.hbpToIpscPacing = true)
    (ts : Timeslot) (events : List Event)
    (fires : SlotMeets dmr cfg ts (fun _ slot part => part.Fires slot) Translator.initial events) :
    let final := (translator dmr cfg).run Translator.initial events
    ∃ steps, (pacer cfg).Meets (fun _ paced event => event.Fires paced) [] {} steps ∧
      (pacer cfg).run {} steps = ((final.1.slot ts).held, pacedActions ts final.2) := by
  intro final
  have append : ∀ first second : List Output,
      pacedActions ts (first ++ second) = pacedActions ts first ++ pacedActions ts second := by
    intro first second
    rw [pacedActions, slotActions_append, List.filter_append]
    rfl
  obtain ⟨steps, met, log, state⟩ := (translator dmr cfg).run_simulated (pacer cfg) rfl append _
    (fun paced event => event.Fires paced) (fun tr paced => paced = (tr.slot ts).held)
    (by
      rintro past tr event image allowed rfl
      obtain ⟨steps, met, run⟩ := step_paces dmr enabled ts tr event allowed
      exact ⟨steps, met, congrArg Prod.snd run, congrArg Prod.fst run⟩)
    [] Translator.initial events fires {} rfl
  exact ⟨steps, met, Prod.ext state log⟩

/-- In such a run a timeslot's queue keeps its limit, and a drain is scheduled exactly while a packet
waits. -/
theorem translator_queue_bounded (dmr : DmrUtils) (enabled : cfg.hbpToIpscPacing = true)
    (ts : Timeslot) (events : List Event)
    (fires : SlotMeets dmr cfg ts (fun _ slot part => part.Fires slot) Translator.initial events) :
    let slot := ((translator dmr cfg).run Translator.initial events).1.slot ts
    slot.tx.queue.length ≤ cfg.queueLimit ∧ (slot.tx.handle ≠ none ↔ slot.tx.queue ≠ []) := by
  intro slot
  obtain ⟨steps, met, run⟩ := translator_refines_pacer dmr enabled ts events fires
  have accounts := pacer_exact enabled steps met
  simp only [Mealy.ghost_run, run] at accounts
  exact ⟨accounts.bounded, accounts.scheduled⟩

end Ipsc2Hbp
