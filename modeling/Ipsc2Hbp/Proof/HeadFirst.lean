import Ipsc2Hbp.Construction.DmrCodec
import Ipsc2Hbp.Construction.Packets
import Ipsc2Hbp.Library.Precedence
import Ipsc2Hbp.Proof.GeneratedCalls

namespace Ipsc2Hbp
open BigEndian Precedence

/-- The packets of a log that are handed to `send_to_peer`. -/
def sentEntries (log : List Action) : List QueueEntry :=
  log.filterMap fun action => match action with
    | .sendToPeer entry => some entry
    | _ => none

@[simp] theorem sentEntries_append (first second : List Action) :
    sentEntries (first ++ second) = sentEntries first ++ sentEntries second :=
  List.filterMap_append

/-- A VOICE_HEAD of the call with the stream byte. -/
def HeadFor (call : Nat) (streamByte : Option UInt8) (head : QueueEntry) : Prop :=
  head.burstType = voiceHead ∧ head.call = call ∧ gvStream head.packet = streamByte

/-- A VOICE_HEAD of the entry's own call. -/
def HeadOf (head entry : QueueEntry) : Prop := HeadFor entry.call (gvStream entry.packet) head

instance (head entry : QueueEntry) : Decidable (HeadOf head entry) :=
  inferInstanceAs (Decidable (_ ∧ _ ∧ _))

/-- Every entry that is not a VOICE_HEAD comes after a VOICE_HEAD of its own call. -/
def HeadFirst (entries : List QueueEntry) : Prop :=
  Preceded (fun entry => entry.burstType ≠ voiceHead) HeadOf entries

/-- A head of the same call takes the place of another. -/
theorem HeadFor.replaced {call : Nat} {streamByte : Option UInt8} {head other : QueueEntry}
    (headFor : HeadFor call streamByte head) (same : HeadOf other head) :
    HeadFor call streamByte other := by
  obtain ⟨-, sameCall, sameStream⟩ := headFor
  obtain ⟨isHead, otherCall, otherStream⟩ := same
  exact ⟨isHead, otherCall.trans sameCall, otherStream.trans sameStream⟩

/-- A frame starts a call when it makes the translator generate the headers of the call. -/
def StartsCall (cfg : Config) (frame : HbpFrame) (now : Time) (slot : Slot) : Prop :=
  (frame.isHead = true ∧ duplicateHead frame now slot = false ∧ cfg.hbpStartOnVoice = false) ∨
  (frame.isHead = false ∧ frame.isTerm = false ∧
    ((slot.inCall.lc = none ∧ cfg.legacyFlow = false) ∨
      (slot.inCall.lc ≠ none ∧ slot.inCall.started = false)))

instance (cfg : Config) (frame : HbpFrame) (now : Time) (slot : Slot) :
    Decidable (StartsCall cfg frame now slot) :=
  inferInstanceAs (Decidable ((_ ∧ _ ∧ _) ∨ (_ ∧ _ ∧ ((_ ∧ _) ∨ (_ ∧ _)))))

/-- Header number `idx` passes: the first one into a queue with room, or without pacing any one
that finds the slot idle. -/
def HeadPasses (cfg : Config) (clock : Clock) (slot : Slot) (idx : Nat) : Prop :=
  (cfg.hbpToIpscPacing = true → idx = 0 ∧ slot.tx.queue.length < cfg.queueLimit) ∧
  (cfg.hbpToIpscPacing = false → isIpscSlotBusy cfg (clock (2 * idx)) slot = false)

instance (cfg : Config) (clock : Clock) (slot : Slot) (idx : Nat) :
    Decidable (HeadPasses cfg clock slot idx) :=
  inferInstanceAs (Decidable ((_ → _) ∧ (_ → _)))

/-- A head that a busy slot drops is not the last of its call: one was sent or the next follows. -/
def HeadSpared (log : List Action) : List QueueEntry → Prop
  | [] => True
  | entry :: rest => entry.burstType = voiceHead →
      (∃ head ∈ sentEntries log, HeadOf head entry) ∨ ∃ head ∈ rest.head?, HeadOf head entry

instance (log : List Action) : ∀ queue, Decidable (HeadSpared log queue)
  | [] => isTrue trivial
  | _ :: _ => inferInstanceAs (Decidable (_ → _ ∨ _))

/-- No call loses all its headers, at a full queue or at a busy slot. -/
def HeadsGuarded (cfg : Config) (log : List Action) (slot : Slot) : SlotEvent → Prop
  | .hbpFrame frame _ clock =>
      StartsCall cfg frame (clock 0) slot →
      (callLockBlocks cfg { slot with inCall.lastPkt := clock 0 } (.hbp frame.stream) frame.srcSub
        frame.dstGroup frame.isTerm (clock 1)).1 = true ∨
        ∃ idx < cfg.headerCount, HeadPasses cfg (fun reading => clock (2 + reading)) slot idx
  | .drain clock => isIpscSlotBusy cfg (clock 0) slot = true → HeadSpared log slot.tx.queue
  | _ => True

instance (cfg : Config) (log : List Action) (slot : Slot) :
    ∀ part, Decidable (HeadsGuarded cfg log slot part)
  | .hbpFrame .. => inferInstanceAs (Decidable (_ → _ ∨ _))
  | .drain _ => inferInstanceAs (Decidable (_ → _))
  | .ipscVoice .. | .checkCallTimeouts .. | .peerLost | .hbpDisconnected => isTrue trivial

/-- The packets that were sent, followed by those that wait. -/
def pipeline (log : List Action) (slot : Slot) : List QueueEntry := sentEntries log ++ slot.tx.queue

/-- The pipeline has its heads first, and a started call has its head in it. -/
structure HeadsKept (cfg : Config) (log : List Action) (slot : Slot) : Prop where
  unpaced : cfg.hbpToIpscPacing = false → slot.tx.queue = []
  ordered : HeadFirst (pipeline log slot)
  started : slot.inCall.started = true →
    ∃ head ∈ pipeline log slot, HeadFor slot.inCall.serial (some slot.inCall.streamId) head

/-- A step that sends nothing, keeps the queue and starts no call keeps the heads. -/
theorem HeadsKept.silent {cfg : Config} {log actions : List Action} {slot after : Slot}
    (kept : HeadsKept cfg log slot) (silent : sentEntries actions = [])
    (queue : after.tx.queue = slot.tx.queue)
    (call : after.inCall.started = true → slot.inCall.started = true ∧
      after.inCall.serial = slot.inCall.serial ∧ after.inCall.streamId = slot.inCall.streamId) :
    HeadsKept cfg (log ++ actions) after := by
  have same : pipeline (log ++ actions) after = pipeline log slot := by
    rw [pipeline, pipeline, sentEntries_append, silent, List.append_nil, queue]
  refine ⟨fun unpaced => queue.trans (kept.unpaced unpaced), by rw [same]; exact kept.ordered, ?_⟩
  intro started
  obtain ⟨before, serial, stream⟩ := call started
  rw [same, serial, stream]
  exact kept.started before

/-- A step that clears the queue and stops the call keeps the heads of what was sent. -/
theorem HeadsKept.cleared {cfg : Config} {log : List Action} {slot after : Slot}
    (kept : HeadsKept cfg log slot) (queue : after.tx.queue = [])
    (stopped : after.inCall.started = false) : HeadsKept cfg log after := by
  refine ⟨fun _ => queue, ?_, fun started => ?_⟩
  · rw [pipeline, queue, List.append_nil]
    exact kept.ordered.of_append
  · rw [stopped] at started
    cases started

/-- The IPSC side hands nothing to the peer. -/
theorem sentEntries_fromIpsc {actions : List Action}
    (fromIpsc : ∀ action ∈ actions, action.FromIpsc) : sentEntries actions = [] := by
  rw [sentEntries, List.filterMap_eq_nil_iff]
  intro action member
  have barred := fromIpsc action member
  cases action <;> first | rfl | exact barred.elim

/-- A generated packet joins the pipeline or is dropped. -/
theorem SendOutcome.pipeline {cfg : Config} {entry : QueueEntry} {clock : Clock}
    {slot after : Slot} {actions : List Action}
    (outcome : SendOutcome cfg entry clock slot after actions) {log : List Action}
    (unpaced : cfg.hbpToIpscPacing = false → slot.tx.queue = []) :
    pipeline (log ++ actions) after = pipeline log slot ∨
      pipeline (log ++ actions) after = pipeline log slot ++ [entry] := by
  cases outcome with
  | direct after actions direct sent =>
      cases sent with
      | busy =>
          left
          simp [Ipsc2Hbp.pipeline, sentEntries]
      | sent =>
          right
          simp [Ipsc2Hbp.pipeline, sentEntries, unpaced direct]
  | full =>
      left
      simp [Ipsc2Hbp.pipeline, sentEntries]
  | queued =>
      right
      simp [Ipsc2Hbp.pipeline, sentEntries]

/-- Without pacing nothing is ever queued. -/
theorem SendOutcome.unpaced {cfg : Config} {entry : QueueEntry} {clock : Clock}
    {slot after : Slot} {actions : List Action}
    (outcome : SendOutcome cfg entry clock slot after actions) (direct : cfg.hbpToIpscPacing = false) :
    after.tx = slot.tx := by
  cases outcome with
  | direct after actions direct sent =>
      cases sent with
      | busy | sent => rfl
  | full => rfl
  | queued handle paced => rw [direct] at paced; cases paced

/-- A packet that finds room, or without pacing an idle slot, joins the pipeline. -/
theorem SendOutcome.joins {cfg : Config} {entry : QueueEntry} {clock : Clock}
    {slot after : Slot} {actions : List Action}
    (outcome : SendOutcome cfg entry clock slot after actions) {log : List Action}
    (paced : cfg.hbpToIpscPacing = true → slot.tx.queue.length < cfg.queueLimit)
    (idle : cfg.hbpToIpscPacing = false → isIpscSlotBusy cfg (clock 0) slot = false) :
    entry ∈ Ipsc2Hbp.pipeline (log ++ actions) after := by
  cases outcome with
  | direct after actions direct sent =>
      cases sent with
      | busy occupied => rw [idle direct] at occupied; cases occupied
      | sent => simp [Ipsc2Hbp.pipeline, sentEntries]
  | full pacing crowded => exact absurd (paced pacing) (Nat.not_lt_of_le crowded)
  | queued => simp [Ipsc2Hbp.pipeline, sentEntries]

/-- The busy test reads the time of the last accepted IPSC packet. -/
theorem isIpscSlotBusy_congr (cfg : Config) (now : Time) {slot other : Slot}
    (same : slot.ipscBusyLast = other.ipscBusyLast) :
    isIpscSlotBusy cfg now slot = isIpscSlotBusy cfg now other := by
  simp only [isIpscSlotBusy, same]

/-- What is in the pipeline stays in it while packets are generated. -/
theorem SendOutcome.pipeline_mono {cfg : Config} {entry other : QueueEntry} {clock : Clock}
    {slot after : Slot} {actions : List Action}
    (outcome : SendOutcome cfg entry clock slot after actions) {log : List Action}
    (unpaced : cfg.hbpToIpscPacing = false → slot.tx.queue = [])
    (member : other ∈ Ipsc2Hbp.pipeline log slot) :
    other ∈ Ipsc2Hbp.pipeline (log ++ actions) after := by
  rcases outcome.pipeline unpaced with same | joined
  · rwa [same]
  · rw [joined]
    exact List.mem_append_left _ member

/-- A packet that is a head, or has its head before it, keeps the order of the pipeline. -/
theorem SendOutcome.headFirst {cfg : Config} {entry : QueueEntry} {clock : Clock}
    {slot after : Slot} {actions : List Action}
    (outcome : SendOutcome cfg entry clock slot after actions) {log : List Action}
    (unpaced : cfg.hbpToIpscPacing = false → slot.tx.queue = [])
    (ordered : HeadFirst (Ipsc2Hbp.pipeline log slot))
    (served : entry.burstType ≠ voiceHead → ∃ head ∈ Ipsc2Hbp.pipeline log slot, HeadOf head entry) :
    HeadFirst (Ipsc2Hbp.pipeline (log ++ actions) after) := by
  rcases outcome.pipeline unpaced with same | joined
  · rwa [same]
  · rw [joined]
    exact ordered.snoc served

/-- Generating a packet that is a head, or has its head in the pipeline, keeps the heads. -/
theorem HeadsKept.generate {cfg : Config} {log : List Action} {slot : Slot}
    (kept : HeadsKept cfg log slot) {shared : Shared} (wide : shared.Wide) {frame : HbpFrame}
    (frameWide : frame.Wide) (callInfo rtpPt payloadType : UInt8) (rest : Bytes) (burstType : UInt8)
    (clock : Clock) (served : burstType ≠ voiceHead → slot.inCall.started = true) :
    let sent := generatePacket cfg shared frame callInfo rtpPt (payloadType :: rest) burstType clock slot
    HeadsKept cfg (log ++ sent.2) sent.1 := by
  have outcome := generatePacket_cases cfg shared frame callInfo rtpPt (payloadType :: rest) burstType
    clock slot
  have fields := callPacket_fields cfg wide frameWide callInfo rtpPt payloadType rest slot.inCall
  have call := generatePacket_inCall cfg shared frame callInfo rtpPt (payloadType :: rest) burstType
    clock slot
  refine ⟨fun direct => ?_, outcome.headFirst kept.unpaced kept.ordered fun voice => ?_, ?_⟩
  · rw [outcome.unpaced direct]
    exact kept.unpaced direct
  · obtain ⟨head, member, headFor⟩ := kept.started (served voice)
    refine ⟨head, member, ?_⟩
    rw [HeadOf]
    exact fields.stream ▸ headFor
  · intro started
    rw [call] at started ⊢
    obtain ⟨head, member, headFor⟩ := kept.started started
    exact ⟨head, outcome.pipeline_mono kept.unpaced member, headFor⟩

/-- What the header loop keeps before header number `idx`: a header that has passed leaves a head
of the call in the pipeline. -/
structure HeadsEmitted (cfg : Config) (clock : Clock) (log : List Action) (slot : Slot) (idx : Nat)
    (actions : List Action) (after : Slot) : Prop where
  kept : HeadsKept cfg (log ++ actions) after
  call : after.inCall.Continues slot.inCall
  busy : after.ipscBusyLast = slot.ipscBusyLast
  first : idx = 0 → after.tx = slot.tx
  passed : ∀ passing < idx, HeadPasses cfg clock slot passing →
    ∃ head ∈ pipeline (log ++ actions) after,
      HeadFor slot.inCall.serial (some slot.inCall.streamId) head

/-- One header keeps what the loop keeps. -/
theorem HeadsEmitted.next {cfg : Config} {clock : Clock} {log actions : List Action}
    {slot before : Slot} {idx : Nat} (emitted : HeadsEmitted cfg clock log slot idx actions before)
    {shared : Shared} (wide : shared.Wide) {frame : HbpFrame} (frameWide : frame.Wide)
    (rtpPt : UInt8) (rest : Bytes) :
    let sent := generatePacket cfg shared frame frame.callInfo rtpPt (voiceHead :: rest) voiceHead
      (fun reading => clock (2 * idx + reading)) before
    HeadsEmitted cfg clock log slot (idx + 1) (actions ++ sent.2) sent.1 := by
  have outcome := generatePacket_cases cfg shared frame frame.callInfo rtpPt (voiceHead :: rest)
    voiceHead (fun reading => clock (2 * idx + reading)) before
  have side := generatePacket_side cfg shared frame frame.callInfo rtpPt (voiceHead :: rest)
    voiceHead (fun reading => clock (2 * idx + reading)) before
  have fields := callPacket_fields cfg wide frameWide frame.callInfo rtpPt voiceHead rest before.inCall
  have kept := emitted.kept.generate wide frameWide frame.callInfo rtpPt voiceHead rest voiceHead
    (fun reading => clock (2 * idx + reading)) (fun notHead => absurd rfl notHead)
  intro sent
  refine ⟨by simpa only [List.append_assoc] using kept, ?_, side.ipscBusyLast.trans emitted.busy,
    fun zero => absurd zero (Nat.succ_ne_zero idx), ?_⟩
  · rw [generatePacket_inCall]
    exact before.inCall.advance_continues.trans emitted.call
  · intro passing below passes
    rw [← List.append_assoc]
    rcases Nat.lt_succ_iff_lt_or_eq.mp below with earlier | here
    · obtain ⟨head, member, headFor⟩ := emitted.passed passing earlier passes
      exact ⟨head, outcome.pipeline_mono emitted.kept.unpaced member, headFor⟩
    · subst here
      refine ⟨_, outcome.joins (fun paced => ?_) (fun direct => ?_), rfl, ?_, ?_⟩
      · obtain ⟨zero, room⟩ := passes.1 paced
        have same := emitted.first zero
        exact same ▸ room
      · exact (isIpscSlotBusy_congr cfg _ emitted.busy).trans (passes.2 direct)
      · exact emitted.call.serial
      · rw [← emitted.call.streamId]
        exact fields.stream

/-- The headers of a call that are not all dropped put a head of the call in the pipeline. -/
theorem HeadsKept.start {cfg : Config} {log : List Action} {slot : Slot}
    (kept : HeadsKept cfg log slot) (dmr : DmrUtils) {shared : Shared} (wide : shared.Wide)
    {frame : HbpFrame} (frameWide : frame.Wide) (clock : Clock)
    (passes : slot.inCall.started = false →
      ∃ idx < cfg.headerCount, HeadPasses cfg clock slot idx) :
    let start := emitHbpIpscStart dmr cfg shared frame clock slot
    start.1.inCall.started = true ∧ HeadsKept cfg (log ++ start.2) start.1 := by
  unfold emitHbpIpscStart
  cases started : slot.inCall.started with
  | true =>
      rw [if_pos rfl]
      exact ⟨started, kept.silent rfl rfl fun _ => ⟨started, rfl, rfl⟩⟩
  | false =>
      rw [if_neg (by simp)]
      obtain ⟨passing, below, passed⟩ := passes started
      have emitted := emitHeads_invariant dmr cfg shared frame
        (truthyOr slot.inCall.lc (dmr.lcOpt ++ frame.dstGroup ++ frame.srcSub)) clock
        (HeadsEmitted cfg clock log slot) (fun idx actions before emitted =>
          emitted.next wide frameWide _ _) cfg.headerCount 0 [] slot
        ⟨by simpa using kept, .refl _, rfl, fun _ => rfl, by simp⟩
      rw [Nat.zero_add, List.nil_append] at emitted
      refine ⟨rfl, emitted.kept.unpaced, emitted.kept.ordered, fun _ => ?_⟩
      have head := emitted.passed passing below passed
      rw [← emitted.call.serial, ← emitted.call.streamId] at head
      exact head

/-- A voice burst of a started call, or of a call whose headers pass, keeps the heads. -/
theorem HeadsKept.continueVoice {cfg : Config} {log : List Action} {slot : Slot}
    (kept : HeadsKept cfg log slot) (dmr : DmrUtils) {shared : Shared} (wide : shared.Wide)
    {frame : HbpFrame} (frameWide : frame.Wide) (clock : Clock)
    (passes : slot.inCall.started = false → ∃ idx < cfg.headerCount,
      HeadPasses cfg (fun reading => clock (2 + reading)) slot idx) :
    let voice := continueVoice dmr cfg frame clock shared slot
    HeadsKept cfg (log ++ voice.2) voice.1 := by
  obtain ⟨started, kept⟩ := kept.start dmr wide frameWide (fun reading => clock (2 + reading)) passes
  unfold Ipsc2Hbp.continueVoice
  simp only
  split
  case h_1 err failed =>
    rw [← List.append_assoc]
    exact kept.silent rfl rfl fun now => ⟨now, rfl, rfl⟩
  case h_2 gvPayload built =>
    obtain ⟨rest, rfl⟩ := hbpVoicePayload_burst built
    rw [← List.append_assoc]
    exact kept.generate wide frameWide frame.callInfo 0x5d frame.slotBurst rest frame.slotBurst
      (fun reading => clock (12 + reading)) fun _ => started

/-- The terminator of a started call comes after its head. -/
theorem HeadsKept.term {cfg : Config} {log : List Action} {slot : Slot}
    (kept : HeadsKept cfg log slot) (started : slot.inCall.started = true) (dmr : DmrUtils)
    {shared : Shared} (wide : shared.Wide) {frame : HbpFrame} (frameWide : frame.Wide)
    (clock : Clock) (now : Time) :
    HeadsKept cfg (log ++ (sendHbpTerm dmr cfg frame clock shared slot).2)
      (endHbpCall cfg now (sendHbpTerm dmr cfg frame clock shared slot).1) := by
  have sent := kept.generate wide frameWide (frame.callInfo ||| endMsk) 0x5e voiceTerm
    (buildIpscVoicePayload dmr (truthyOr slot.inCall.lc (frameLc dmr frame)) voiceTerm) voiceTerm
    (fun reading => clock (2 + reading)) fun _ => started
  exact ⟨sent.unpaced, sent.ordered, fun opened => by cases opened⟩

/-- A guarded frame keeps the heads. -/
theorem HeadsKept.hbpFrame {cfg : Config} {log : List Action} {slot : Slot}
    (kept : HeadsKept cfg log slot) (dmr : DmrUtils) {shared : Shared} (wide : shared.Wide)
    {frame : HbpFrame} (frameWide : frame.Wide) (draw : RtpDraw) (clock : Clock)
    (guarded : HeadsGuarded cfg log slot (.hbpFrame frame draw clock)) :
    let result := hbpFrameReceived dmr cfg frame draw clock shared slot
    HeadsKept cfg (log ++ result.2.2) result.2.1 := by
  obtain ⟨blocked, lock, decided, -, received⟩ :=
    hbpFrameReceived_decided dmr cfg frame draw clock shared slot
  rw [received]
  rw [HeadsGuarded, decided] at guarded
  cases blocked with
  | true => exact kept.silent rfl rfl fun now => ⟨now, rfl, rfl⟩
  | false =>
      simp only [Bool.false_eq_true, if_false, false_or] at guarded ⊢
      have outcome := hbpAdmitted_cases dmr cfg frame draw clock shared
        { slot with inCall.lastPkt := clock 0, lock := lock }
      have stamped : HeadsKept cfg log { slot with inCall.lastPkt := clock 0, lock := lock } :=
        ⟨kept.unpaced, kept.ordered, kept.started⟩
      have begins : StartsCall cfg frame (clock 0) slot → ∃ idx < cfg.headerCount,
          HeadPasses cfg (fun reading => clock (2 + reading)) slot idx := guarded
      have opens : ∀ lc, HeadsKept cfg log (openHbpCall dmr frame lc draw (clock 0) shared
          { slot with inCall.lastPkt := clock 0, lock := lock }).2 := fun lc =>
        ⟨kept.unpaced, kept.ordered, fun now => by cases now⟩
      have wideAfter : ∀ lc, (openHbpCall dmr frame lc draw (clock 0) shared
          { slot with inCall.lastPkt := clock 0, lock := lock }).1.Wide := fun lc =>
        ⟨wide.peerCallType, wide.peerCallCtrl⟩
      generalize hbpAdmitted dmr cfg frame draw clock shared
        { slot with inCall.lastPkt := clock 0, lock := lock } = result at outcome
      cases outcome with
      | foreignTerm | voiceIgnored | headMerged =>
          exact kept.silent rfl rfl fun now => ⟨now, rfl, rfl⟩
      | headOpened opened head fresh waits recorded =>
          subst recorded
          exact kept.silent rfl rfl fun now => by cases now
      | headStarted opened head fresh atOnce recorded =>
          subst recorded
          exact ((opens (decodeHbpVoiceLc dmr frame.payload)).start dmr (wideAfter _) frameWide
            (fun reading => clock (2 + reading)) fun _ => begins (.inl ⟨head, fresh, atOnce⟩)).2
      | endedSilent => exact kept.silent rfl rfl fun now => by cases now
      | ended term started => exact stamped.term started dmr wide frameWide clock (clock 4)
      | voiceContinued notHead notTerm opened =>
          exact stamped.continueVoice dmr wide frameWide clock fun unstarted =>
            begins (.inr ⟨notHead, notTerm, .inr ⟨Option.isSome_iff_ne_none.mp opened, unstarted⟩⟩)
      | voiceOpened opened notHead notTerm closed flow recorded =>
          subst recorded
          exact (opens (frameLc dmr frame)).continueVoice dmr (wideAfter _) frameWide clock
            fun _ => begins (.inr ⟨notHead, notTerm, .inl ⟨closed, flow⟩⟩)

/-- A drain that drops no last head of a call keeps the heads. -/
theorem HeadsKept.drain {cfg : Config} {log : List Action} {slot : Slot}
    (kept : HeadsKept cfg log slot) (clock : Clock)
    (guarded : HeadsGuarded cfg log slot (.drain clock)) :
    let drained := drainHbpToIpscQueue cfg clock slot
    HeadsKept cfg (log ++ drained.2) drained.1 := by
  have outcome := drainHbpToIpscQueue_cases cfg clock slot
  generalize drainHbpToIpscQueue cfg clock slot = drained at outcome
  rcases drained with ⟨after, actions⟩
  cases outcome with
  | empty lockUntil idle => exact kept.silent rfl rfl fun now => ⟨now, rfl, rfl⟩
  | taken entry rest sent actions handle nextAt lockUntil first passed =>
      have ordered := kept.ordered
      have started := kept.started
      rw [pipeline, first] at ordered started
      have paced : cfg.hbpToIpscPacing = false → rest = [] := fun direct => by
        have empty := kept.unpaced direct
        rw [first] at empty
        cases empty
      cases passed with
      | sent reflect idle =>
          have same : ∀ after : Slot, after.tx.queue = rest →
              pipeline (log ++ [.sendToPeer entry]) after = sentEntries log ++ entry :: rest := by
            intro after queue
            rw [pipeline, sentEntries_append, queue, List.append_assoc]
            rfl
          refine ⟨paced, ?_, fun now => ?_⟩
          · rw [same _ rfl]
            exact ordered
          · rw [same _ rfl]
            exact started now
      | busy occupied =>
          have spared := guarded occupied
          rw [first] at spared
          have same : ∀ after : Slot, after.tx.queue = rest →
              pipeline (log ++ [.slotBusy entry]) after = sentEntries log ++ rest := by
            intro after queue
            rw [pipeline, sentEntries_append, queue, List.append_assoc]
            rfl
          refine ⟨paced, ?_, fun now => ?_⟩
          · rw [same _ rfl]
            refine ordered.remove fun other serves => ?_
            rcases spared serves.1 with ⟨head, member, headOf⟩ | ⟨head, next, headOf⟩
            · exact .inl ⟨head, member, serves.replaced headOf⟩
            · obtain ⟨tail, rfl⟩ : ∃ tail, rest = head :: tail := by
                cases rest with
                | nil => simp at next
                | cons other tail => exact ⟨tail, by simpa using next⟩
              exact .inr ⟨head, tail, rfl, fun notHead => notHead headOf.1, serves.replaced headOf⟩
          · rw [same _ rfl]
            obtain ⟨head, member, headFor⟩ := started now
            have places : head ∈ sentEntries log ++ rest ∨ head = entry := by
              simp only [List.mem_append, List.mem_cons] at member ⊢
              tauto
            rcases places with stays | rfl
            · exact ⟨head, stays, headFor⟩
            · rcases spared headFor.1 with ⟨other, sentBefore, headOf⟩ | ⟨other, next, headOf⟩
              · exact ⟨other, List.mem_append_left _ sentBefore, headFor.replaced headOf⟩
              · exact ⟨other, List.mem_append_right _ (List.mem_of_mem_head? next),
                  headFor.replaced headOf⟩

/-- Every guarded step of a slot keeps the heads. -/
theorem HeadsKept.slotStep {cfg : Config} {ts : Timeslot} {log : List Action} {slot : Slot}
    (kept : HeadsKept cfg log slot) (dmr : DmrUtils) {shared : Shared} (wide : shared.Wide)
    {part : SlotEvent} (formed : part.Formed ts) (guarded : HeadsGuarded cfg log slot part) :
    let result := slotStep dmr cfg ts shared slot part
    HeadsKept cfg (log ++ result.2.2) result.2.1 := by
  cases part with
  | ipscVoice connected data burstType urandom clock =>
      obtain ⟨inCall, tx, fromIpsc⟩ := ipscVoiceReceived_inbound dmr cfg connected data ts burstType
        urandom clock shared slot
      exact kept.silent (sentEntries_fromIpsc fromIpsc) (congrArg TxQueue.queue tx) fun now =>
        ⟨(congrArg InCall.started inCall).symm.trans now, congrArg InCall.serial inCall,
          congrArg InCall.streamId inCall⟩
  | hbpFrame frame draw clock => exact kept.hbpFrame dmr wide formed.1 draw clock guarded
  | drain clock => exact kept.drain clock guarded
  | checkCallTimeouts timeout clock =>
      refine kept.silent rfl (congrArg TxQueue.queue (checkCallTimeouts_tx ..)) fun now => ?_
      rcases (checkCallTimeouts_frame cfg timeout clock ts slot).2 with same | reset
      · exact ⟨(congrArg InCall.started same).symm.trans now, congrArg InCall.serial same,
          congrArg InCall.streamId same⟩
      · exact absurd ((congrArg InCall.started reset).symm.trans now) Bool.false_ne_true
  | peerLost | hbpDisconnected =>
      change HeadsKept cfg (log ++ []) _
      rw [List.append_nil]
      exact kept.cleared rfl rfl

/-- In every run in which no call loses all its headers, each packet that is handed to the peer
and is not a VOICE_HEAD comes after a VOICE_HEAD of its own call. -/
theorem heads_sent_first_of_guarded (dmr : DmrUtils) (cfg : Config) (ts : Timeslot)
    (events : List Event)
    (guarded : SlotMeets dmr cfg ts (HeadsGuarded cfg) Translator.initial events) :
    HeadFirst (sentEntries (slotActions ts ((translator dmr cfg).run Translator.initial events).2)) :=
  (slot_run_invariant dmr cfg ts (HeadsGuarded cfg) (HeadsKept cfg)
    (fun _ _ _ _ wide formed guarded kept => kept.slotStep dmr wide formed guarded)
    Translator.initial events Translator.initial_wide guarded
    ⟨fun _ => rfl, Preceded.nil, fun started => by cases started⟩).ordered.of_append

/-- Without pacing, a master's voice burst enters late and its call is sent at once. -/
def promptRun : List Event :=
  [.hbpVoice true (masterVoice dmrCodec [1, 1, 1, 1] [0, 0, 7] [0, 0, 2] 0x10) rtpDraw fun _ => 100]

theorem heads_sent_first_of_guarded_prompt :
    let sent := sentEntries (slotActions .ts1 ((translator dmrCodec { hbpToIpscPacing := false }).run
      Translator.initial promptRun).2)
    sent.map QueueEntry.burstType = [voiceHead, voiceHead, voiceHead, slot1Voice] ∧ HeadFirst sent :=
  ⟨by decide +kernel, heads_sent_first_of_guarded dmrCodec { hbpToIpscPacing := false } .ts1 promptRun
    (by decide +kernel)⟩

/-- A repeater's call on talkgroup 1 keeps the slot busy while the headers of the master's call
on talkgroup 2 are drained; the voice burst behind them leaves when the slot is idle again. -/
def busyRun : List Event :=
  [.ipscVoice true (peerHead dmrCodec 5 [0, 0, 9] [0, 0, 1]) .ts1 voiceHead firstDraw
      fun _ => 100,
    .hbpVoice true (masterVoice dmrCodec [1, 1, 1, 1] [0, 0, 7] [0, 0, 2] 0x10) rtpDraw
      fun _ => 100 + 1 / 100,
    .drain .ts1 fun _ => 100 + 1 / 100,
    .drain .ts1 fun _ => 100 + 7 / 100,
    .ipscVoice true (peerTerm dmrCodec 5 [0, 0, 9] [0, 0, 1]) .ts1 voiceTerm firstDraw
      fun _ => 100 + 12 / 100,
    .drain .ts1 fun _ => 100 + 13 / 100,
    .drain .ts1 fun _ => 100 + 23 / 100]

/-- The defaults send a voice burst of a call whose headers were all dropped. -/
theorem voice_sent_without_head_busy :
    ¬ ∀ events ts, HeadFirst (sentEntries (slotActions ts
      ((translator dmrCodec {}).run Translator.initial events).2)) := by
  intro law
  have first := law busyRun .ts1
  have voice : (sentEntries (slotActions .ts1 ((translator dmrCodec {}).run Translator.initial
      busyRun).2)).head?.map QueueEntry.burstType = some slot1Voice := by decide +kernel
  generalize sentEntries (slotActions .ts1 ((translator dmrCodec {}).run Translator.initial
      busyRun).2) = sent at first voice
  cases sent with
  | nil => cases voice
  | cons entry rest =>
      have burst : entry.burstType = slot1Voice := Option.some.inj voice
      exact first.head (by rw [burst]; decide)

end Ipsc2Hbp
