import Ipsc2Hbp.Proof.CallRecords
import Ipsc2Hbp.Proof.HeadFirst
import Ipsc2Hbp.Proof.LockHold

namespace Ipsc2Hbp
open BigEndian

/-- The configuration without pacing. -/
def Config.unpaced (cfg : Config) : Config := { cfg with hbpToIpscPacing := false }

/-- Nothing but pacing stands between a generated packet and the IPSC stack. -/
structure Config.OnlyPaces (cfg : Config) : Prop where
  pacing : cfg.hbpToIpscPacing = true
  callLock : cfg.ipscCallLock = false
  reflection : cfg.ipscReflectSuppression = false
  busyGuard : cfg.ipscBusySlotGuard = false

/-- The timeslot without what pacing and the locks, which nothing reads then, keep there. -/
def Slot.unpaced (slot : Slot) : Slot := { slot with tx := {}, lock := {} }

/-- The translator without what pacing and the locks keep on its timeslots. -/
def Translator.unpaced (tr : Translator) : Translator :=
  { tr with slot := fun ts => (tr.slot ts).unpaced }

/-- The callbacks that reset the timeslots and drop the waiting packets. -/
def Event.Resets : Event → Prop
  | .peerLost | .hbpDisconnected => True
  | _ => False

/-- A drain is scheduled by pacing alone. -/
def Event.isDrain : Event → Bool
  | .drain .. => true
  | _ => false

/-- The effects other than sending and refusing packets. -/
def Action.isPlain : Action → Bool
  | .queueFull _ | .sendToPeer _ => false
  | _ => true

def Action.isQueueFull : Action → Bool
  | .queueFull _ => true
  | _ => false

/-- The queue has refused a packet. -/
def Overflows (log : List Action) : Prop := ∃ action ∈ log, action.isQueueFull

/-- What is done of the due packets keeps their order, and without a loss it is all of them. -/
def Keeps (loss : Prop) (due done : List QueueEntry) : Prop :=
  done.Sublist due ∧ (¬ loss → done = due)

namespace Keeps
variable {loss : Prop} {due done : List QueueEntry}

theorem of_eq (all : done = due) : Keeps loss due done := ⟨all ▸ List.Sublist.refl _, fun _ => all⟩

theorem mono {more : Prop} (kept : Keeps loss due done) (implies : loss → more) :
    Keeps more due done := ⟨kept.1, fun whole => kept.2 (mt implies whole)⟩

/-- The packets that wait after one piece of work are due in the next. -/
theorem trans {waiting direct sent later further rest : List QueueEntry} {more : Prop}
    (first : Keeps loss (waiting ++ direct) (sent ++ later))
    (second : Keeps more (later ++ further) (done ++ rest)) :
    Keeps (loss ∨ more) (waiting ++ (direct ++ further)) ((sent ++ done) ++ rest) := by
  have regrouped : sent ++ (later ++ further) = (sent ++ later) ++ further := by simp
  rw [← List.append_assoc waiting, List.append_assoc sent]
  refine ⟨?_, fun whole => ?_⟩
  · refine (second.1.append_left sent).trans ?_
    rw [regrouped]
    exact first.1.append_right further
  · obtain ⟨one, two⟩ := not_or.mp whole
    rw [second.2 two, regrouped, first.2 one]

end Keeps

/-- What a paced and an unpaced handler do from one timeslot: they differ by the waiting packets
only, which a reset drops. -/
structure Delays (reset : Prop) (before : Slot) (paced unpaced : Slot × List Action) : Prop where
  state : unpaced.1 = paced.1.unpaced
  plain : unpaced.2.filter Action.isPlain = paced.2.filter Action.isPlain
  sent : Keeps (reset ∨ Overflows paced.2) (before.tx.queue ++ sentEntries unpaced.2)
    (sentEntries paced.2 ++ paced.1.tx.queue)

namespace Delays
variable {reset : Prop} {before middle : Slot}

/-- One handler after another. -/
theorem append {slot other : Slot} {one two later further : List Action}
    (first : Delays reset before (middle, one) (middle.unpaced, later))
    (second : Delays reset middle (slot, two) (other, further)) :
    Delays reset before (slot, one ++ two) (other, later ++ further) where
  state := second.state
  plain := by rw [List.filter_append, List.filter_append, first.plain, second.plain]
  sent := by
    have both := first.sent.trans second.sent
    rw [sentEntries_append, sentEntries_append]
    refine both.mono ?_
    rintro ((lost | ⟨action, member, full⟩) | (lost | ⟨action, member, full⟩))
    · exact .inl lost
    · exact .inr ⟨action, List.mem_append_left _ member, full⟩
    · exact .inl lost
    · exact .inr ⟨action, List.mem_append_right _ member, full⟩

theorem mono {more : Prop} {paced unpaced : Slot × List Action}
    (delays : Delays reset before paced unpaced) (implies : reset → more) :
    Delays more before paced unpaced :=
  ⟨delays.state, delays.plain, delays.sent.mono (Or.imp_left implies)⟩

/-- A handler that sends nothing and leaves the queue alone. -/
theorem still {after : Slot} {actions : List Action} (queue : after.tx.queue = before.tx.queue)
    (none : sentEntries actions = []) :
    Delays reset before (after, actions) (after.unpaced, actions) where
  state := rfl
  plain := rfl
  sent := .of_eq (by simp [queue, none])

end Delays

/-- Handlers that take the same branch are related when their branches are. -/
theorem ite_related {α β : Type*} {r : α → β → Prop} {test : Bool} {one two : α} {other further : β}
    (yes : test = true → r one other) (no : test = false → r two further) :
    r (if test then one else two) (if test then other else further) := by
  cases test with
  | false => exact no rfl
  | true => exact yes rfl

/-- The queue does not count where the fields of a call are set together. -/
theorem legacyHbpStreamDrop_unpaced (cfg : Config) {dmr : DmrUtils} (frame : HbpFrame) {slot : Slot}
    (coherent : slot.inCall.Coherent dmr) :
    legacyHbpStreamDrop cfg.unpaced frame slot.unpaced = legacyHbpStreamDrop cfg frame slot := by
  have flow : cfg.unpaced.legacyFlow = cfg.legacyFlow := rfl
  have inCall : slot.unpaced.inCall = slot.inCall := rfl
  have together := coherent.hbpStream
  unfold legacyHbpStreamDrop
  rw [flow, inCall]
  cases stream : slot.inCall.hbpStream with
  | none => simp
  | some streamId =>
      rw [stream, Option.isSome_some] at together
      simp [← together]

/-- Without the call lock a frame goes on to its branch. -/
theorem hbpFrameReceived_unlocked (dmr : DmrUtils) {cfg : Config} (unlocked : cfg.ipscCallLock = false)
    (shared : Shared) (frame : HbpFrame) (draw : RtpDraw) (clock : Clock) (slot : Slot) :
    hbpFrameReceived dmr cfg frame draw clock shared slot =
      let heard : Slot := { slot with inCall.lastPkt := clock 0 }
      if legacyHbpStreamDrop cfg frame heard then (shared, heard, [])
      else if frame.isHead then hbpHead dmr cfg frame draw clock shared heard
      else if frame.isTerm then
        (shared, hbpTerm dmr cfg frame clock shared heard)
      else hbpVoice dmr cfg frame draw clock shared heard := by
  simp [hbpFrameReceived, callLockBlocks, unlocked]

/-- Draining touches the lock only. -/
theorem hbpIpscQueueDrained_unpaced (cfg : Config) (now : Time) (slot : Slot) :
    (hbpIpscQueueDrained cfg now slot).unpaced = slot.unpaced := by
  unfold hbpIpscQueueDrained
  split <;> rfl

theorem scheduleHbpToIpscDrain_unpaced (cfg : Config) (now : Time) (slot : Slot) :
    (scheduleHbpToIpscDrain cfg now slot).unpaced = slot.unpaced ∧
      (scheduleHbpToIpscDrain cfg now slot).tx.queue = slot.tx.queue := by
  unfold scheduleHbpToIpscDrain
  dsimp only
  split_ifs
  · exact ⟨rfl, rfl⟩
  · exact ⟨hbpIpscQueueDrained_unpaced cfg now slot, by rw [hbpIpscQueueDrained_tx]⟩
  · exact ⟨rfl, rfl⟩
  · exact ⟨rfl, rfl⟩

section Inbound
variable {cfg : Config} (only : cfg.OnlyPaces) (dmr : DmrUtils) (shared : Shared) (frame : HbpFrame)
include only

/-- A packet whose turn has come is sent, and nothing is remembered of it. -/
theorem sendHbpToIpscNow_sends (entry : QueueEntry) (clock : Clock) (slot : Slot) :
    sendHbpToIpscNow cfg entry clock slot = (slot, [.sendToPeer entry]) := by
  simp [sendHbpToIpscNow, isIpscSlotBusy, only.busyGuard, rememberHbpToIpsc, only.reflection]

/-- A packet that is passed on waits or is sent. -/
theorem sendHbpToIpsc_delays (entry : QueueEntry) (clock : Clock) (slot : Slot) :
    Delays False slot (sendHbpToIpsc cfg entry clock slot)
      (sendHbpToIpsc cfg.unpaced entry clock slot.unpaced) := by
  have direct : sendHbpToIpsc cfg.unpaced entry clock slot.unpaced =
      (slot.unpaced, [.generate entry, .sendToPeer entry]) := by
    simp [sendHbpToIpsc, Config.unpaced, sendHbpToIpscNow, isIpscSlotBusy, only.busyGuard,
      rememberHbpToIpsc, only.reflection]
  rw [direct, sendHbpToIpsc, if_neg (by simp [only.pacing])]
  split
  · refine ⟨rfl, rfl, List.sublist_append_left _ _, fun whole => ?_⟩
    exact absurd (.inr ⟨.queueFull entry, by simp, rfl⟩) whole
  · dsimp only
    split
    · obtain ⟨same, queue⟩ := scheduleHbpToIpscDrain_unpaced cfg (clock 0)
        { slot with tx.queue := slot.tx.queue ++ [entry] }
      exact ⟨same.symm, rfl, .of_eq queue⟩
    · exact ⟨rfl, rfl, .of_eq rfl⟩

theorem generatePacket_delays (callInfo rtpPt : UInt8) (gvPayload : Bytes) (burstType : UInt8)
    (clock : Clock) (slot : Slot) :
    Delays False slot (generatePacket cfg shared frame callInfo rtpPt gvPayload burstType clock slot)
      (generatePacket cfg.unpaced shared frame callInfo rtpPt gvPayload burstType clock slot.unpaced) := by
  let made := makeHbpIpscPacket cfg shared frame.srcSub frame.dstGroup callInfo rtpPt gvPayload slot
  have sent := sendHbpToIpsc_delays only
    ⟨made.1, frame.srcSub, frame.dstGroup, burstType, slot.inCall.serial⟩ clock made.2
  exact ⟨sent.state, sent.plain, sent.sent⟩

theorem emitHeads_delays (lc : Bytes) (clock : Clock) (count idx : Nat) (slot : Slot) :
    Delays False slot (emitHeads dmr cfg shared frame lc clock count idx slot)
      (emitHeads dmr cfg.unpaced shared frame lc clock count idx slot.unpaced) := by
  induction count generalizing idx slot with
  | zero => exact .still rfl rfl
  | succ count ih =>
      simp only [emitHeads]
      have first := generatePacket_delays only shared frame frame.callInfo
        (if idx = 0 then 0xdd else 0x5d) ([voiceHead] ++ buildIpscVoicePayload dmr lc voiceHead) voiceHead
        (fun reading => clock (2 * idx + reading)) slot
      have state := first.state
      rw [state]
      refine Delays.append ⟨rfl, first.plain, first.sent⟩ (ih (idx + 1) _)

theorem emitHbpIpscStart_delays (clock : Clock) (slot : Slot) :
    Delays False slot (emitHbpIpscStart dmr cfg shared frame clock slot)
      (emitHbpIpscStart dmr cfg.unpaced shared frame clock slot.unpaced) := by
  unfold emitHbpIpscStart
  refine ite_related (fun _ => .still rfl rfl) fun _ => ?_
  have heads := emitHeads_delays only dmr shared frame
    (truthyOr slot.inCall.lc (dmr.lcOpt ++ frame.dstGroup ++ frame.srcSub)) clock cfg.headerCount 0
    slot
  exact ⟨congrArg (fun slot : Slot => { slot with inCall.started := true }) heads.state, heads.plain,
    heads.sent⟩

/-- The end of a call does not touch the queue. -/
theorem endHbpCall_unpaced (now : Time) (slot : Slot) :
    endHbpCall cfg.unpaced now slot.unpaced = (endHbpCall cfg now slot).unpaced := by
  simp [endHbpCall, releaseCallLock, Config.unpaced, only.callLock, Slot.unpaced]

theorem hbpTerm_delays (clock : Clock) (slot : Slot) :
    Delays False slot (hbpTerm dmr cfg frame clock shared slot)
      (hbpTerm dmr cfg.unpaced frame clock shared slot.unpaced) := by
  unfold hbpTerm
  refine ite_related (fun _ => ?_) fun _ => ?_
  · exact ⟨endHbpCall_unpaced only (clock 2) slot, rfl, .of_eq (List.append_nil _).symm⟩
  · have sent := generatePacket_delays only shared frame (frame.callInfo ||| endMsk) 0x5e
      ([voiceTerm] ++ buildIpscVoicePayload dmr
        (truthyOr slot.inCall.lc (dmr.lcOpt ++ frame.dstGroup ++ frame.srcSub)) voiceTerm) voiceTerm
      (fun reading => clock (2 + reading)) slot
    refine ⟨?_, sent.plain, sent.sent⟩
    exact (congrArg (endHbpCall cfg.unpaced (clock 4)) sent.state).trans
      (endHbpCall_unpaced only (clock 4) _)

/-- A handler of a frame with the shared fields that it leaves. -/
def Relays (reset : Prop) (before : Slot) (paced unpaced : Shared × Slot × List Action) : Prop :=
  unpaced.1 = paced.1 ∧ Delays reset before paced.2 unpaced.2

theorem hbpHead_relays (draw : RtpDraw) (clock : Clock) (slot : Slot) :
    Relays False slot (hbpHead dmr cfg frame draw clock shared slot)
      (hbpHead dmr cfg.unpaced frame draw clock shared slot.unpaced) := by
  unfold hbpHead
  refine ite_related (fun _ => ⟨rfl, .still rfl rfl⟩) fun _ => ?_
  let start : Slot :=
    if slot.inCall.hbpStream.isSome && slot.inCall.lc.isSome && slot.inCall.started then
      { slot with inCall := resetHbpToIpscState slot.inCall } else slot
  have queue : start.tx.queue = slot.tx.queue := by
    unfold start
    split <;> rfl
  have same : (if slot.unpaced.inCall.hbpStream.isSome && slot.unpaced.inCall.lc.isSome &&
      slot.unpaced.inCall.started then
      { slot.unpaced with inCall := resetHbpToIpscState slot.unpaced.inCall } else slot.unpaced) =
      start.unpaced := by
    unfold start
    rw [apply_ite Slot.unpaced]
    rfl
  dsimp only
  rw [same]
  refine ite_related (fun _ => ⟨rfl, .still queue rfl⟩) fun _ => ?_
  let opened := openHbpCall dmr frame (decodeHbpVoiceLc dmr frame.payload) draw (clock 0) shared start
  have begun := emitHbpIpscStart_delays only dmr opened.1 frame (fun reading => clock (2 + reading))
    opened.2
  exact ⟨rfl, begun.state, begun.plain, queue ▸ begun.sent⟩

theorem hbpVoice_relays (draw : RtpDraw) (clock : Clock) (slot : Slot) :
    Relays False slot (hbpVoice dmr cfg frame draw clock shared slot)
      (hbpVoice dmr cfg.unpaced frame draw clock shared slot.unpaced) := by
  unfold hbpVoice
  refine ite_related (fun _ => ⟨rfl, .still rfl rfl⟩) fun _ => ?_
  dsimp only
  generalize entered : (if slot.inCall.lc.isNone = true then
    openHbpCall dmr frame (dmr.lcOpt ++ frame.dstGroup ++ frame.srcSub) draw (clock 0) shared slot
    else (shared, slot)) = opened
  have same : (if slot.unpaced.inCall.lc.isNone = true then
      openHbpCall dmr frame (dmr.lcOpt ++ frame.dstGroup ++ frame.srcSub) draw (clock 0) shared
        slot.unpaced
      else (shared, slot.unpaced)) = (opened.1, opened.2.unpaced) := by
    rw [← entered]
    change (if slot.inCall.lc.isNone = true then _ else _) = _
    split_ifs <;> rfl
  have queue : opened.2.tx.queue = slot.tx.queue := by
    rw [← entered]
    split <;> rfl
  rw [same]
  have begun := emitHbpIpscStart_delays only dmr opened.1 frame
    (fun reading => clock (2 + reading)) opened.2
  dsimp only
  generalize emitHbpIpscStart dmr cfg opened.1 frame (fun reading => clock (2 + reading)) opened.2 =
    start at begun ⊢
  generalize emitHbpIpscStart dmr cfg.unpaced opened.1 frame (fun reading => clock (2 + reading))
    opened.2.unpaced = direct at begun ⊢
  obtain ⟨paced, actions⟩ := start
  obtain ⟨unpaced, others⟩ := direct
  obtain rfl : unpaced = paced.unpaced := begun.state
  have payload : hbpVoicePayload dmr frame paced.unpaced = hbpVoicePayload dmr frame paced := rfl
  have entry {after direct : Slot × List Action} (all : Delays False opened.2 after direct) :
      Delays False slot after direct := ⟨all.state, all.plain, queue ▸ all.sent⟩
  dsimp only
  rw [payload]
  cases hbpVoicePayload dmr frame paced with
  | error err => exact ⟨rfl, entry (begun.append (.still rfl rfl))⟩
  | ok gvPayload =>
      have last := generatePacket_delays only opened.1 frame frame.callInfo 0x5d gvPayload
        frame.slotBurst (fun reading => clock (12 + reading)) paced
      exact ⟨rfl, entry (begun.append last)⟩

theorem hbpFrameReceived_relays (draw : RtpDraw) (clock : Clock) {slot : Slot}
    (coherent : slot.inCall.Coherent dmr) :
    Relays False slot (hbpFrameReceived dmr cfg frame draw clock shared slot)
      (hbpFrameReceived dmr cfg.unpaced frame draw clock shared slot.unpaced) := by
  rw [hbpFrameReceived_unlocked dmr only.callLock,
    hbpFrameReceived_unlocked dmr (show cfg.unpaced.ipscCallLock = false from only.callLock)]
  let heard : Slot := { slot with inCall.lastPkt := clock 0 }
  have dropped : legacyHbpStreamDrop cfg.unpaced frame heard.unpaced =
      legacyHbpStreamDrop cfg frame heard := legacyHbpStreamDrop_unpaced cfg frame
    ⟨coherent.embLc, coherent.hbpStream, coherent.srcSub, coherent.dstGroup, coherent.started⟩
  have head := hbpHead_relays only dmr shared frame draw clock heard
  have term := hbpTerm_delays only dmr shared frame clock heard
  have voice := hbpVoice_relays only dmr shared frame draw clock heard
  change Relays False slot (if legacyHbpStreamDrop cfg frame heard then (shared, heard, []) else _)
    (if legacyHbpStreamDrop cfg.unpaced frame heard.unpaced then (shared, heard.unpaced, []) else _)
  rw [dropped]
  refine ite_related (fun _ => ⟨rfl, .still rfl rfl⟩) fun _ => ?_
  refine ite_related (fun _ => ⟨head.1, head.2.state, head.2.plain, head.2.sent⟩) fun _ => ?_
  refine ite_related (fun _ => ⟨rfl, term.state, term.plain, term.sent⟩) fun _ => ?_
  exact ⟨voice.1, voice.2.state, voice.2.plain, voice.2.sent⟩

/-- A drain sends the first of the waiting packets. -/
theorem drainHbpToIpscQueue_delays (clock : Clock) (slot : Slot) :
    Delays False slot (drainHbpToIpscQueue cfg clock slot) (slot.unpaced, []) := by
  obtain ⟨outCall, inCall, lock, ⟨queue, handle, nextAt⟩, reflect, busyLast⟩ := slot
  cases queue with
  | nil =>
      let idle : Slot := ⟨outCall, inCall, lock, ⟨[], none, nextAt⟩, reflect, busyLast⟩
      change Delays False _ (hbpIpscQueueDrained cfg (clock 0) idle, []) (idle.unpaced, [])
      refine ⟨(hbpIpscQueueDrained_unpaced cfg (clock 0) idle).symm, rfl, .of_eq ?_⟩
      rw [hbpIpscQueueDrained_tx]
      rfl
  | cons entry rest =>
      simp only [drainHbpToIpscQueue, sendHbpToIpscNow_sends only]
      let after : Slot :=
        ⟨outCall, inCall, lock, ⟨rest, none, clock 2 + cfg.frameInterval⟩, reflect, busyLast⟩
      split
      · obtain ⟨same, left⟩ := scheduleHbpToIpscDrain_unpaced cfg (clock 3) after
        refine ⟨same.symm, rfl, .of_eq ?_⟩
        change [entry] ++ (scheduleHbpToIpscDrain cfg (clock 3) after).tx.queue = entry :: rest ++ []
        rw [left, List.append_nil]
        rfl
      · refine ⟨(hbpIpscQueueDrained_unpaced cfg (clock 3) after).symm, rfl, .of_eq ?_⟩
        change [entry] ++ (hbpIpscQueueDrained cfg (clock 3) after).tx.queue = entry :: rest ++ []
        rw [hbpIpscQueueDrained_tx, List.append_nil]
        rfl

end Inbound

/-- Without the call lock there is nothing to release. -/
theorem releaseCallLock_unlocked {cfg : Config} (unlocked : cfg.ipscCallLock = false)
    (direction : Direction) (now : Time) (lock : CallLock) :
    releaseCallLock cfg direction now lock = lock := by
  simp [releaseCallLock, unlocked]

/-- Without the call lock and the suppression an accepted burst passes the legacy check only. -/
theorem ipscVoiceReceived_unlocked (dmr : DmrUtils) {cfg : Config} (unlocked : cfg.ipscCallLock = false)
    (reflection : cfg.ipscReflectSuppression = false) (connected : Bool) (data : Bytes)
    (ts : Timeslot) (burstType : UInt8) (urandom : StreamId) (clock : Clock) (shared : Shared)
    (slot : Slot) :
    ipscVoiceReceived dmr cfg connected data ts burstType urandom clock shared slot =
      if !connected then (shared, slot, [])
      else
        let heard : Slot := { slot with outCall.lastPkt := clock 0 }
        let dropped := legacyIpscStreamDrop cfg data[gvIpscSeqOff]? burstType (clock 1) heard
        if dropped.1 then (shared, dropped.2, [])
        else sendBurst cfg ts (gvSrcSub data) (gvDstGroup data) burstType (clock 5)
          (shared.learn data)
          (burstOf dmr cfg data (gvSrcSub data) (gvDstGroup data) burstType urandom
            { dropped.2 with ipscBusyLast := clock 4 }) := by
  simp [ipscVoiceReceived, callLockBlocks, unlocked, shouldSuppressIpscReflection, reflection]

/-- The branch's outcome without what pacing keeps. -/
def Burst.unpaced : Burst → Burst
  | .done slot actions => .done slot.unpaced actions
  | .frame slot actions payload flags => .frame slot.unpaced actions payload flags

/-- No branch on the burst type reads the queue or the lock. -/
theorem burstOf_unpaced (dmr : DmrUtils) (cfg : Config) (data srcSub dstGroup : Bytes)
    (burstType : UInt8) (urandom : StreamId) (slot : Slot) :
    burstOf dmr cfg.unpaced data srcSub dstGroup burstType urandom slot.unpaced =
      (burstOf dmr cfg data srcSub dstGroup burstType urandom slot).unpaced := by
  have flow : cfg.unpaced.legacyFlow = cfg.legacyFlow := rfl
  have outCall : slot.unpaced.outCall = slot.outCall := rfl
  have opened (start : Slot) (actions : List Action) :
      openVoiceBurst dmr data start.unpaced actions =
        (openVoiceBurst dmr data start actions).unpaced := by
    unfold openVoiceBurst
    split_ifs <;> rfl
  unfold burstOf
  split_ifs
  · unfold headBurst
    rw [flow, outCall]
    cases slot.outCall.streamId with
    | none => rfl
    | some streamId => dsimp only; split_ifs <;> rfl
  · unfold termBurst
    rw [outCall]
    cases slot.outCall.streamId <;> rfl
  · unfold voiceBurst
    rw [flow, outCall]
    cases slot.outCall.streamId with
    | some streamId => exact opened slot []
    | none =>
        dsimp only
        split_ifs
        · rfl
        · cases data[32]? with
          | none => rfl
          | some mark =>
              dsimp only
              split_ifs
              · rfl
              · let lc := dmr.lcOpt ++ dstGroup ++ srcSub
                exact opened { slot with
                  outCall := { slot.outCall with
                    streamId := some urandom.val, lc := some lc,
                    embLc := some (dmr.encodeEmblc lc), framePos := 4 } }
                  [.openStream urandom.val lc]

section Outbound
variable {cfg : Config} (only : cfg.OnlyPaces) (dmr : DmrUtils) (shared : Shared)
include only

theorem sendBurst_unpaced (ts : Timeslot) (srcSub dstGroup : Bytes) (burstType : UInt8) (now : Time)
    (burst : Burst) :
    let paced := sendBurst cfg ts srcSub dstGroup burstType now shared burst
    sendBurst cfg.unpaced ts srcSub dstGroup burstType now shared burst.unpaced =
      (paced.1, paced.2.1.unpaced, paced.2.2) := by
  have flow : cfg.unpaced.legacyFlow = cfg.legacyFlow := rfl
  cases burst with
  | done slot actions => rfl
  | frame slot actions payload flags =>
      simp only [sendBurst, Burst.unpaced]
      have outCall : slot.unpaced.outCall = slot.outCall := rfl
      rw [flow, outCall]
      cases slot.outCall.streamId with
      | none => rfl
      | some streamId =>
          have ended : endIpscCall cfg.unpaced now slot.unpaced = (endIpscCall cfg now slot).unpaced := by
            simp [endIpscCall, releaseCallLock, Config.unpaced, only.callLock, Slot.unpaced]
          dsimp only
          rw [ended]
          split_ifs <;> rfl

theorem legacyIpscStreamDrop_unpaced (ipscStream : Option UInt8) (burstType : UInt8) (now : Time)
    (slot : Slot) :
    let paced := legacyIpscStreamDrop cfg ipscStream burstType now slot
    legacyIpscStreamDrop cfg.unpaced ipscStream burstType now slot.unpaced =
      (paced.1, paced.2.unpaced) := by
  have flow : cfg.unpaced.legacyFlow = cfg.legacyFlow := rfl
  have outCall : slot.unpaced.outCall = slot.outCall := rfl
  have paced := releaseCallLock_unlocked only.callLock .ipsc now slot.lock
  have direct := releaseCallLock_unlocked (show cfg.unpaced.ipscCallLock = false from only.callLock)
    .ipsc now slot.unpaced.lock
  unfold legacyIpscStreamDrop
  rw [flow, outCall, paced, direct]
  cases cfg.legacyFlow with
  | false => rfl
  | true =>
      cases ipscStream with
      | none => rfl
      | some streamByte =>
          dsimp only
          split_ifs <;> rfl

/-- A packet from the peer is handled alike with and without pacing. -/
theorem ipscVoiceReceived_relays (connected : Bool) (data : Bytes) (ts : Timeslot)
    (burstType : UInt8) (urandom : StreamId) (clock : Clock) (slot : Slot) :
    Relays False slot (ipscVoiceReceived dmr cfg connected data ts burstType urandom clock shared slot)
      (ipscVoiceReceived dmr cfg.unpaced connected data ts burstType urandom clock shared
        slot.unpaced) := by
  have inbound := ipscVoiceReceived_inbound dmr cfg connected data ts burstType urandom clock shared slot
  have direct : ipscVoiceReceived dmr cfg.unpaced connected data ts burstType urandom clock shared
      slot.unpaced =
      let paced := ipscVoiceReceived dmr cfg connected data ts burstType urandom clock shared slot
      (paced.1, paced.2.1.unpaced, paced.2.2) := by
    rw [ipscVoiceReceived_unlocked dmr only.callLock only.reflection,
      ipscVoiceReceived_unlocked dmr (show cfg.unpaced.ipscCallLock = false from only.callLock)
        (show cfg.unpaced.ipscReflectSuppression = false from only.reflection)]
    cases connected with
    | false => rfl
    | true =>
        have dropped := legacyIpscStreamDrop_unpaced only data[gvIpscSeqOff]? burstType (clock 1)
          { slot with outCall.lastPkt := clock 0 }
        have heard : ({ slot.unpaced with outCall.lastPkt := clock 0 } : Slot) =
            ({ slot with outCall.lastPkt := clock 0 } : Slot).unpaced := rfl
        dsimp only at dropped ⊢
        rw [heard, dropped]
        generalize legacyIpscStreamDrop cfg data[gvIpscSeqOff]? burstType (clock 1)
          { slot with outCall.lastPkt := clock 0 } = passed
        simp only [Bool.not_true, Bool.false_eq_true, if_false]
        split
        · rfl
        · have burst := burstOf_unpaced dmr cfg data (gvSrcSub data) (gvDstGroup data) burstType
            urandom { passed.2 with ipscBusyLast := clock 4 }
          have sent := sendBurst_unpaced only (shared.learn data) ts (gvSrcSub data)
            (gvDstGroup data) burstType (clock 5) (burstOf dmr cfg data (gvSrcSub data)
              (gvDstGroup data) burstType urandom { passed.2 with ipscBusyLast := clock 4 })
          rw [← burst] at sent
          exact sent
  rw [direct]
  obtain ⟨-, tx, fromIpsc⟩ := inbound
  exact ⟨rfl, .still (by rw [tx]) (sentEntries_fromIpsc fromIpsc)⟩

theorem checkCallTimeouts_unpaced (timeout : Time) (clock : Clock) (ts : Timeslot) (slot : Slot) :
    checkCallTimeouts cfg.unpaced timeout clock ts slot.unpaced =
      (checkCallTimeouts cfg timeout clock ts slot).unpaced := by
  have out (now releaseAt : Time) : checkOutTimeout cfg.unpaced timeout now releaseAt slot.unpaced =
      (checkOutTimeout cfg timeout now releaseAt slot).unpaced := by
    have outCall : slot.unpaced.outCall = slot.outCall := rfl
    have released := releaseCallLock_unlocked
      (show cfg.unpaced.ipscCallLock = false from only.callLock) .ipsc releaseAt slot.unpaced.lock
    unfold checkOutTimeout
    rw [outCall, released]
    split_ifs <;> rfl
  have inbound (now releaseAt : Time) (other : Slot) :
      checkInTimeout cfg.unpaced timeout now releaseAt other.unpaced =
        (checkInTimeout cfg timeout now releaseAt other).unpaced := by
    have inCall : other.unpaced.inCall = other.inCall := rfl
    unfold checkInTimeout
    rw [inCall, endHbpCall_unpaced only]
    split_ifs <;> rfl
  unfold checkCallTimeouts
  rw [out, inbound]

/-- One piece of work on a timeslot is the same without pacing, but for when its packets leave. -/
theorem slotStep_relays (ts : Timeslot) {slot : Slot} (coherent : slot.inCall.Coherent dmr)
    (part : SlotEvent) :
    Relays part.Resets slot (slotStep dmr cfg ts shared slot part)
      (slotStep dmr cfg.unpaced ts shared slot.unpaced part) := by
  cases part with
  | ipscVoice connected data burstType urandom clock =>
      exact ipscVoiceReceived_relays only dmr shared connected data ts burstType urandom clock slot
  | hbpFrame frame draw clock =>
      exact hbpFrameReceived_relays only dmr shared frame draw clock coherent
  | drain clock => exact ⟨rfl, drainHbpToIpscQueue_delays only clock slot⟩
  | checkCallTimeouts timeout clock =>
      refine ⟨rfl, checkCallTimeouts_unpaced only timeout clock ts slot, rfl, .of_eq ?_⟩
      change (checkCallTimeouts cfg timeout clock ts slot).tx.queue = slot.tx.queue ++ []
      rw [checkCallTimeouts_tx, List.append_nil]
  | peerLost | hbpDisconnected =>
      exact ⟨rfl, rfl, rfl, List.nil_sublist _, fun whole => absurd (.inl trivial) whole⟩

/-- One callback leaves the timeslot the same state and the same effects, but for the packets that
wait. -/
theorem step_delays (tr : Translator) (coherent : ∀ ts, (tr.slot ts).inCall.Coherent dmr)
    (event : Event) (ts : Timeslot) :
    let paced := Translator.step dmr cfg tr event
    let direct := Translator.step dmr cfg.unpaced tr.unpaced event
    Delays event.Resets (tr.slot ts) (paced.1.slot ts, slotActions ts paced.2)
      (direct.1.slot ts, slotActions ts direct.2) := by
  intro paced direct
  cases seen : event.atSlot ts with
  | none =>
      obtain ⟨same, silent⟩ := Translator.step_unseen dmr cfg tr seen
      obtain ⟨sameDirect, silentDirect⟩ := Translator.step_unseen dmr cfg.unpaced tr.unpaced seen
      rw [same, silent, sameDirect, silentDirect]
      exact .still rfl rfl
  | some part =>
      obtain ⟨state, actions⟩ := Translator.step_seen dmr cfg tr seen
      obtain ⟨stateDirect, actionsDirect⟩ := Translator.step_seen dmr cfg.unpaced tr.unpaced seen
      have relays := slotStep_relays only dmr tr.shared ts (coherent ts) part
      have resets : part.Resets → event.Resets := by
        cases Event.atSlot_cases seen <;> exact id
      rw [state, actions, stateDirect, actionsDirect]
      exact relays.2.mono resets

/-- One callback leaves the state that the unpaced one leaves. -/
theorem step_unpaced (tr : Translator) (coherent : ∀ ts, (tr.slot ts).inCall.Coherent dmr)
    (event : Event) :
    (Translator.step dmr cfg.unpaced tr.unpaced event).1 =
      (Translator.step dmr cfg tr event).1.unpaced := by
  have shared (ts : Timeslot) (part : SlotEvent) (seen : event.atSlot ts = some part) :
      (Translator.step dmr cfg.unpaced tr.unpaced event).1.shared =
        (Translator.step dmr cfg tr event).1.shared := by
    rw [Translator.step_seen_shared dmr cfg.unpaced tr.unpaced seen,
      Translator.step_seen_shared dmr cfg tr seen]
    exact (slotStep_relays only dmr tr.shared ts (coherent ts) part).1
  have same : (Translator.step dmr cfg.unpaced tr.unpaced event).1.shared =
      (Translator.step dmr cfg tr event).1.shared := by
    cases event with
    | ipscVoice connected data ts => exact shared ts _ (if_pos rfl)
    | hbpVoice registered dmrd draw clock =>
        cases accepted : acceptedFrame registered dmrd with
        | none =>
            simp only [Translator.step, hbpVoiceReceived_eq, accepted]
            rfl
        | some frame =>
            exact shared frame.timeslot (.hbpFrame frame draw clock) (by simp [Event.atSlot, accepted])
    | drain | checkCallTimeouts | peerRegistered | peerLost | hbpDisconnected => rfl
  have slots : (Translator.step dmr cfg.unpaced tr.unpaced event).1.slot =
      (Translator.step dmr cfg tr event).1.unpaced.slot :=
    funext fun ts => (step_delays only dmr tr coherent event ts).state
  exact congrArg₂ Translator.mk same slots

end Outbound

/-- Without pacing a drain finds nothing to do, so that it may be left out of a run. -/
theorem run_without_drains (dmr : DmrUtils) (cfg : Config) (tr : Translator) (event : Event)
    (rest : List Event) :
    let machine := translator dmr cfg.unpaced
    let first := Translator.step dmr cfg.unpaced tr.unpaced event
    let later := machine.run first.1 (rest.filter fun event => !event.isDrain)
    machine.run tr.unpaced ((event :: rest).filter fun event => !event.isDrain) =
      (later.1, first.2 ++ later.2) := by
  cases event with
  | drain ts clock =>
      have idle : Translator.step dmr cfg.unpaced tr.unpaced (.drain ts clock) = (tr.unpaced, []) :=
        Prod.ext (congrArg (Translator.mk tr.shared) (Function.update_eq_self ts tr.unpaced.slot)) rfl
      rw [idle]
      rfl
  | ipscVoice | hbpVoice | checkCallTimeouts | peerRegistered | peerLost | hbpDisconnected => rfl

/-- A run differs from the run without pacing by the packets that wait at its end, if no callback
drops them. -/
theorem run_delays {cfg : Config} (only : cfg.OnlyPaces) (dmr : DmrUtils) (events : List Event) :
    ∀ tr : Translator, (∀ ts, (tr.slot ts).Coherent dmr) →
      let paced := (translator dmr cfg).run tr events
      let direct := (translator dmr cfg.unpaced).run tr.unpaced
        (events.filter fun event => !event.isDrain)
      direct.1 = paced.1.unpaced ∧ ∀ ts,
        Delays (∃ event ∈ events, event.Resets) (tr.slot ts)
          (paced.1.slot ts, slotActions ts paced.2) (direct.1.slot ts, slotActions ts direct.2) := by
  induction events with
  | nil => exact fun tr _ => ⟨rfl, fun ts => .still rfl rfl⟩
  | cons event rest ih =>
      intro tr coherent paced direct
      let next := Translator.step dmr cfg tr event
      have inbound (ts : Timeslot) : (tr.slot ts).inCall.Coherent dmr := (coherent ts).inCall
      have kept (ts : Timeslot) : (next.1.slot ts).Coherent dmr := by
        cases seen : event.atSlot ts with
        | none =>
            rw [(Translator.step_unseen dmr cfg tr seen).1]
            exact coherent ts
        | some part =>
            rw [(Translator.step_seen dmr cfg tr seen).1]
            exact (coherent ts).slotStep cfg ts tr.shared part
      have state := step_unpaced only dmr tr inbound event
      have later := ih next.1 kept
      have split : direct = _ := run_without_drains dmr cfg tr event rest
      rw [state] at split
      rw [split]
      refine ⟨later.1, fun ts => ?_⟩
      have first := step_delays only dmr tr inbound event ts
      dsimp only at first
      rw [state] at first
      change Delays _ _ (_, slotActions ts (next.2 ++ _)) _
      rw [slotActions_append, slotActions_append]
      refine (first.mono fun resets => ⟨event, List.mem_cons_self, resets⟩).append
        ((later.2 ts).mono ?_)
      exact fun ⟨other, member, resets⟩ => ⟨other, List.mem_cons_of_mem _ member, resets⟩

/-- Where pacing is all that stands between a generated packet and the IPSC stack, it changes
nothing but when the packets leave: in every run the other state and the other effects are those
of the run without pacing, what has been sent and what still waits keep the order in which that run
sends, and they are all of its packets unless the queue was full or the peer or the HBP master was
lost. -/
theorem pacing_only_delays (dmr : DmrUtils) {cfg : Config} (only : cfg.OnlyPaces)
    (events : List Event) :
    let paced := (translator dmr cfg).run Translator.initial events
    let direct := (translator dmr cfg.unpaced).run Translator.initial
      (events.filter fun event => !event.isDrain)
    direct.1 = paced.1.unpaced ∧ ∀ ts,
      let log := slotActions ts paced.2
      let logDirect := slotActions ts direct.2
      let done := sentEntries log ++ (paced.1.slot ts).tx.queue
      logDirect.filter Action.isPlain = log.filter Action.isPlain ∧
      done.Sublist (sentEntries logDirect) ∧
      (¬ Overflows log → (∀ event ∈ events, ¬ event.Resets) → done = sentEntries logDirect) := by
  obtain ⟨state, delays⟩ := run_delays only dmr events Translator.initial
    (fun ts => slot_coherent cfg [] ts)
  refine ⟨state, fun ts => ⟨(delays ts).plain, (delays ts).sent.1, fun accepted stays => ?_⟩⟩
  refine (delays ts).sent.2 (not_or.mpr ⟨?_, accepted⟩)
  exact fun ⟨event, member, resets⟩ => stays event member resets

/-- A voice burst of a master enters late; its first header has left when the run ends. -/
def delayedRun : List Event :=
  [.hbpVoice true (masterVoice dmrCodec [1, 1, 1, 1] [0, 0, 7] [0, 0, 2] 0x10) rtpDraw fun _ => 100,
    .drain .ts1 fun _ => 100]

theorem pacing_only_delays_late :
    let cfg : Config := { ipscCallLock := false, ipscBusySlotGuard := false }
    let paced := (translator dmrCodec cfg).run Translator.initial delayedRun
    let direct := (translator dmrCodec cfg.unpaced).run Translator.initial
      (delayedRun.filter fun event => !event.isDrain)
    let sent := sentEntries (slotActions .ts1 paced.2)
    let waiting := (paced.1.slot .ts1).tx.queue
    sent.map QueueEntry.burstType = [voiceHead] ∧
      waiting.map QueueEntry.burstType = [voiceHead, voiceHead, slot1Voice] ∧
      sent ++ waiting = sentEntries (slotActions .ts1 direct.2) := by
  refine ⟨by decide +kernel, by decide +kernel, ?_⟩
  refine ((pacing_only_delays dmrCodec ⟨rfl, rfl, rfl, rfl⟩ delayedRun).2 .ts1).2.2 ?_ ?_
  · unfold Overflows
    decide +kernel
  · intro event member
    rcases List.mem_cons.mp member with rfl | last
    · exact id
    · obtain rfl := List.mem_singleton.mp last
      exact id

end Ipsc2Hbp
