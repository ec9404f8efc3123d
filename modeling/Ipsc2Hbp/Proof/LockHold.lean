import Ipsc2Hbp.Proof.CallRecords
import Ipsc2Hbp.Proof.Exclusive
import Ipsc2Hbp.Proof.LockTest

namespace Ipsc2Hbp
open BigEndian

/-- The HBP direction is busy while its call is active or its packets wait in the queue. -/
abbrev HbpBusy (slot : Slot) : Prop := directionActive slot .hbp = true

/-- An HBP call takes the free lock of the timeslot for a talkgroup. -/
def Acquires (group : Bytes) (slot : Slot) : SlotEvent → Prop
  | .hbpFrame frame _ clock =>
      frame.dstGroup = group ∧
        ((slot.lock.prune (clock 1)).blocked (.hbp frame.stream)).isSome = false ∧
        (slot.lock.owner = none ∨ callLockIsActive slot (clock 1) = false)
  | _ => False

/-- The clock reading at which a callback processes a terminator that the lock lets in, drains the
last packet of the queue or closes a silent HBP call. -/
def SlotEvent.hangStart (cfg : Config) (ts : Timeslot) (slot : Slot) : SlotEvent → Option Time
  | .hbpFrame frame _ clock =>
      if frame.isTerm = true ∧ legacyHbpStreamDrop cfg frame slot = false ∧
          ((hbpLockPacket frame clock).test cfg { slot with inCall.lastPkt := clock 0 }).1 = false then
        some (clock (if slot.inCall.started then 4 else 2))
      else none
  | .drain clock =>
      match slot.tx.queue with
      | [] => some (clock 0)
      | [_] => some (clock 3)
      | _ => none
  | .checkCallTimeouts timeout clock =>
      if slot.inCall.lc.isSome = true ∧ timeout < clock 0 - slot.inCall.lastPkt then
        some (clock (timeoutReading ts + 1))
      else none
  | .ipscVoice .. | .peerLost | .hbpDisconnected => none

/-- The loss of the peer or of the connection clears the calls. -/
def SlotEvent.Resets : SlotEvent → Prop
  | .peerLost | .hbpDisconnected => True
  | _ => False

/-- A release by the direction that does not own the lock does nothing. -/
theorem releaseCallLock_of_other {cfg : Config} {direction : Direction} {now : Time}
    {lock : CallLock} (other : lock.owner ≠ some direction) :
    releaseCallLock cfg direction now lock = lock := by
  unfold releaseCallLock
  rw [if_neg (by simp [other])]

/-- A release by the owner starts the hang time. -/
theorem releaseCallLock_of_owner {cfg : Config} (enabled : cfg.ipscCallLock = true)
    {direction : Direction} {now : Time} {lock : CallLock} (owned : lock.owner = some direction) :
    releaseCallLock cfg direction now lock = { lock with lockUntil := now + cfg.hang } := by
  unfold releaseCallLock
  rw [if_pos (by simp [enabled, owned])]

/-- The legacy stream test leaves a lock alone that IPSC does not own. -/
theorem legacyPrelude_held (cfg : Config) (data : Bytes) (burstType : UInt8) (clock : Clock)
    {slot : Slot} (other : slot.lock.owner ≠ some .ipsc) :
    ∃ outCall, (legacyPrelude cfg data burstType clock slot).2 = { slot with outCall := outCall } := by
  have ways := legacyPrelude_cases cfg data burstType clock slot
  generalize (legacyPrelude cfg data burstType clock slot).2 = after at ways
  generalize (legacyPrelude cfg data burstType clock slot).1 = stale at ways
  cases ways with
  | kept | stale | recorded => exact ⟨_, rfl⟩
  | restarted =>
      have same : releaseCallLock cfg .ipsc (clock 1) slot.lock = slot.lock :=
        releaseCallLock_of_other other
      simp only [same]
      exact ⟨_, rfl⟩

/-- A packet that meets a live lock leaves its hold. -/
theorem LockVerdict.hold_of_alive {cfg : Config} {slot : Slot} {key : StreamKey} {dstGroup : Bytes}
    {now : Time} {blocked : Bool} {lock : CallLock}
    (verdict : LockVerdict cfg slot key dstGroup now blocked lock) {owner : Direction}
    (owned : slot.lock.owner = some owner) (alive : callLockIsActive slot now = true) :
    lock.SameHold slot.lock := by
  cases verdict with
  | off => exact .refl _
  | rejected lock same | continued lock fresh same | otherGroup lock fresh same
  | collision lock same => exact same
  | acquired lock fresh free =>
      rcases free with unowned | lapsed
      · rw [owned] at unowned
        cases unowned
      · rw [alive] at lapsed
        cases lapsed

/-- What a step leaves of a lock that HBP holds: the call stays busy, or the hang time starts at the
reading of the step, or a hang time that runs goes on. -/
structure HoldStep (cfg : Config) (starts : Option Time) (before after : Slot) : Prop where
  owner : after.lock.owner = some .hbp
  tg : after.lock.tg = before.lock.tg
  hang : HbpBusy after ∨
    (∃ time, starts = some time ∧ after.lock.lockUntil = time + cfg.hang) ∨
    (starts = none ∧ ¬ HbpBusy before ∧ after.lock.lockUntil = before.lock.lockUntil)

/-- A step that changes neither the hold nor the busy state is a hold step. -/
theorem HoldStep.of_same {cfg : Config} {starts : Option Time} {before after : Slot}
    (owned : before.lock.owner = some .hbp) (same : after.lock.SameHold before.lock)
    (busy : directionActive after .hbp = directionActive before .hbp) (silent : starts = none) :
    HoldStep cfg starts before after := by
  refine ⟨same.owner.trans owned, same.tg, ?_⟩
  by_cases busyBefore : HbpBusy before
  · exact .inl (busy.trans busyBefore)
  · exact .inr (.inr ⟨silent, busyBefore, same.lockUntil⟩)

/-- A step that keeps the hold and leaves the HBP direction busy is a hold step. -/
theorem HoldStep.of_busy {cfg : Config} {starts : Option Time} {before after : Slot}
    (owned : before.lock.owner = some .hbp) (same : after.lock.SameHold before.lock)
    (busy : HbpBusy after) : HoldStep cfg starts before after :=
  ⟨same.owner.trans owned, same.tg, .inl busy⟩

/-- A step that starts the hang time of the hold is a hold step. -/
theorem HoldStep.of_start {cfg : Config} {starts : Option Time} {before after : Slot}
    (owned : before.lock.owner = some .hbp) {lock : CallLock} (same : lock.SameHold before.lock)
    {time : Time} (starting : starts = some time)
    (written : after.lock = { lock with lockUntil := time + cfg.hang }) :
    HoldStep cfg starts before after := by
  refine ⟨?_, ?_, .inr (.inl ⟨time, starting, ?_⟩)⟩
  · rw [written]
    exact same.owner.trans owned
  · rw [written]
    exact same.tg
  · rw [written]

/-- An IPSC packet keeps a live hold. -/
theorem ipscVoiceReceived_hold (dmr : DmrUtils) (cfg : Config) (connected : Bool) (data : Bytes)
    (ts : Timeslot) (burstType : UInt8) (urandom : StreamId) (clock : Clock) (shared : Shared)
    {slot : Slot} (owned : slot.lock.owner = some .hbp)
    (alive : connected = true → callLockIsActive slot (clock 2) = true) :
    HoldStep cfg none slot
      (ipscVoiceReceived dmr cfg connected data ts burstType urandom clock shared slot).2.1 := by
  cases connected with
  | false => exact .of_same owned (.refl _) rfl rfl
  | true =>
      have notIpsc : slot.lock.owner ≠ some .ipsc := by rw [owned]; decide
      obtain ⟨outCall, framed⟩ := legacyPrelude_held cfg data burstType clock notIpsc
      have tested := ipscVoiceReceived_tested dmr cfg data ts burstType urandom clock shared slot
      generalize ipscVoiceReceived dmr cfg true data ts burstType urandom clock shared slot = result
        at tested
      have aliveAsked : callLockIsActive { slot with outCall := outCall } (clock 2) = true := by
        have live := alive rfl
        unfold callLockIsActive at live ⊢
        simp only [owned] at live ⊢
        exact live
      obtain ⟨blocked, lock, decided, verdict⟩ := callLockBlocks_verdict cfg
        { slot with outCall := outCall } (.ipsc data[gvIpscSeqOff]?) (gvSrcSub data)
        (gvDstGroup data) (burstType = voiceTerm) (clock 2)
      have same : lock.SameHold slot.lock := verdict.hold_of_alive owned aliveAsked
      have answered : (ipscLockPacket data burstType clock).test cfg
          (legacyPrelude cfg data burstType clock slot).2 =
            (blocked, { slot with outCall := outCall, lock := lock }) := by
        rw [framed]
        exact decided
      cases tested with
      | stale =>
          rw [framed]
          exact .of_same owned (.refl _) rfl rfl
      | rejected after answer =>
          obtain ⟨-, rfl⟩ := Prod.mk.inj (answered.symm.trans answer)
          exact .of_same owned same rfl rfl
      | admitted before result answer released inCall tx =>
          obtain ⟨-, rfl⟩ := Prod.mk.inj (answered.symm.trans answer)
          have kept : result.2.1.lock = lock := by
            rcases released with unchanged | ended
            · exact unchanged
            · refine ended.trans (releaseCallLock_of_other ?_)
              rw [same.owner, owned]
              decide
          exact .of_same owned (kept ▸ same) (directionActive_hbp_congr inCall tx) rfl

/-- A frame that is let in under a lock that HBP holds makes the HBP direction busy, starts the hang
time as the terminator of the call, or does nothing. -/
theorem hbpAdmitted_hold (dmr : DmrUtils) {cfg : Config} (enabled : cfg.ipscCallLock = true)
    (frame : HbpFrame) (draw : RtpDraw) (clock : Clock) (shared : Shared) {slot : Slot}
    (owned : slot.lock.owner = some .hbp) :
    let after := (hbpAdmitted dmr cfg frame draw clock shared slot).2.1
    (HbpBusy after ∧ after.lock = slot.lock) ∨
      (frame.isTerm = true ∧ legacyHbpStreamDrop cfg frame slot = false ∧ after.lock =
        { slot.lock with lockUntil := clock (if slot.inCall.started then 4 else 2) + cfg.hang }) ∨
      ((frame.isTerm = false ∨ legacyHbpStreamDrop cfg frame slot = true) ∧ after = slot) := by
  intro after
  by_cases foreign : legacyHbpStreamDrop cfg frame slot = true
  · refine .inr (.inr ⟨.inr foreign, ?_⟩)
    change (hbpAdmitted dmr cfg frame draw clock shared slot).2.1 = _
    unfold hbpAdmitted
    rw [if_pos foreign]
  have own : legacyHbpStreamDrop cfg frame slot = false := by simpa using foreign
  have released : ∀ now, releaseCallLock cfg .hbp now slot.lock =
      { slot.lock with lockUntil := now + cfg.hang } := fun now =>
    releaseCallLock_of_owner enabled owned
  have opens : ∀ other : Slot, other.inCall.lc.isSome = true → HbpBusy other := fun other opened =>
    (directionActive_hbp other).mpr (.inl (Option.isSome_iff_ne_none.mp opened))
  have outcome := hbpAdmitted_cases dmr cfg frame draw clock shared slot
  generalize same : hbpAdmitted dmr cfg frame draw clock shared slot = result at outcome
  have afterIs : after = result.2.1 := congrArg (·.2.1) same
  rw [afterIs]
  cases outcome with
  | foreignTerm dropped => exact absurd dropped foreign
  | voiceIgnored notHead notTerm => exact .inr (.inr ⟨.inl notTerm, rfl⟩)
  | headMerged => exact .inl ⟨opens _ rfl, rfl⟩
  | headOpened opened head fresh waits recorded =>
      subst recorded
      exact .inl ⟨opens _ rfl, rfl⟩
  | headStarted opened head fresh atOnce recorded =>
      subst recorded
      refine .inl ⟨opens _ ?_, emitHbpIpscStart_lock ..⟩
      exact (emitHbpIpscStart_continues ..).lc_isSome.trans rfl
  | endedSilent term unstarted =>
      refine .inr (.inl ⟨term, own, ?_⟩)
      rw [unstarted]
      exact released (clock 2)
  | ended term started =>
      refine .inr (.inl ⟨term, own, ?_⟩)
      rw [started]
      change releaseCallLock cfg .hbp (clock 4) (sendHbpTerm dmr cfg frame clock shared slot).1.lock = _
      rw [sendHbpTerm_lock, released]
      rfl
  | voiceContinued notHead notTerm opened =>
      refine .inl ⟨opens _ ?_, continueVoice_lock ..⟩
      exact (continueVoice_continues ..).lc_isSome.trans opened
  | voiceOpened opened notHead notTerm closed flow recorded =>
      subst recorded
      refine .inl ⟨opens _ ?_, continueVoice_lock ..⟩
      exact (continueVoice_continues ..).lc_isSome.trans rfl

/-- A frame that the lock lets in for HBP keeps the hold that its test leaves. -/
theorem hbpFrameReceived_admittedHold (dmr : DmrUtils) {cfg : Config}
    (enabled : cfg.ipscCallLock = true) (ts : Timeslot) (frame : HbpFrame) (draw : RtpDraw)
    (clock : Clock) (shared : Shared) {slot : Slot} {lock : CallLock}
    (answered : (hbpLockPacket frame clock).test cfg { slot with inCall.lastPkt := clock 0 } =
      (false, { slot with inCall.lastPkt := clock 0, lock := lock }))
    (owned : lock.owner = some .hbp) :
    HoldStep cfg (SlotEvent.hangStart cfg ts slot (.hbpFrame frame draw clock))
      { slot with lock := lock } (hbpFrameReceived dmr cfg frame draw clock shared slot).2.1 := by
  have letIn : ((hbpLockPacket frame clock).test cfg { slot with inCall.lastPkt := clock 0 }).1 =
      false := by rw [answered]
  rw [hbpFrameReceived_admitted dmr draw shared letIn, answered]
  have held : ({ slot with inCall.lastPkt := clock 0, lock := lock } : Slot).lock.owner =
      some .hbp := owned
  rcases hbpAdmitted_hold dmr enabled frame draw clock shared held with
    ⟨busy, kept⟩ | ⟨term, own, written⟩ | ⟨idle, unchanged⟩
  · exact .of_busy owned (by rw [kept]; exact .refl _) busy
  · exact .of_start owned (.refl _) (if_pos ⟨term, own, letIn⟩) written
  · rw [unchanged]
    refine .of_same owned (.refl _) rfl (if_neg ?_)
    rintro ⟨term, own, -⟩
    rcases idle with notTerm | foreign
    · rw [term] at notTerm
      cases notTerm
    · rw [show legacyHbpStreamDrop cfg frame slot = true from foreign] at own
      cases own

/-- A frame keeps a live hold, and a processed terminator starts the hang time. -/
theorem hbpFrameReceived_hold (dmr : DmrUtils) {cfg : Config} (enabled : cfg.ipscCallLock = true)
    (ts : Timeslot) (frame : HbpFrame) (draw : RtpDraw) (clock : Clock) (shared : Shared)
    {slot : Slot} (owned : slot.lock.owner = some .hbp)
    (alive : callLockIsActive slot (clock 1) = true) :
    HoldStep cfg (SlotEvent.hangStart cfg ts slot (.hbpFrame frame draw clock)) slot
      (hbpFrameReceived dmr cfg frame draw clock shared slot).2.1 := by
  obtain ⟨blocked, lock, decided, verdict⟩ := callLockBlocks_verdict cfg
    { slot with inCall.lastPkt := clock 0 } (.hbp frame.stream) frame.srcSub frame.dstGroup
    frame.isTerm (clock 1)
  have same : lock.SameHold slot.lock := verdict.hold_of_alive owned alive
  have answered : (hbpLockPacket frame clock).test cfg { slot with inCall.lastPkt := clock 0 } =
      (blocked, { slot with inCall.lastPkt := clock 0, lock := lock }) := decided
  cases blocked with
  | true =>
      rcases hbpFrameReceived_tested dmr cfg frame draw clock shared slot with
        ⟨rejected, dropped⟩ | ⟨letIn, -⟩
      · rw [dropped, answered]
        refine .of_same owned same rfl (if_neg ?_)
        rintro ⟨-, -, letIn⟩
        rw [rejected] at letIn
        cases letIn
      · rw [answered] at letIn
        cases letIn
  | false =>
      have step := hbpFrameReceived_admittedHold dmr enabled ts frame draw clock shared answered
        (same.owner.trans owned)
      refine ⟨step.owner, step.tg.trans same.tg, ?_⟩
      rcases step.hang with busy | started | ⟨silent, quiet, kept⟩
      · exact .inl busy
      · exact .inr (.inl started)
      · exact .inr (.inr ⟨silent, quiet, kept.trans same.lockUntil⟩)

/-- A drained queue starts the hang time when no call is open. -/
theorem hbpIpscQueueDrained_hold (cfg : Config) {now : Time} {before slot : Slot}
    (owned : before.lock.owner = some .hbp) (same : slot.lock = before.lock) :
    HoldStep cfg (some now) before (hbpIpscQueueDrained cfg now slot) := by
  unfold hbpIpscQueueDrained
  cases closed : slot.inCall.lc with
  | none =>
      rw [if_pos (by simp [same, owned])]
      exact .of_start owned (same ▸ .refl _) rfl rfl
  | some lc =>
      rw [if_neg (by simp)]
      exact .of_busy owned (same ▸ .refl _) ((directionActive_hbp slot).mpr (.inl (by simp [closed])))

/-- A drain keeps the hold; one that leaves the queue empty starts the hang time. -/
theorem drainHbpToIpscQueue_hold (cfg : Config) (ts : Timeslot) (clock : Clock) {slot : Slot}
    (owned : slot.lock.owner = some .hbp) :
    HoldStep cfg (SlotEvent.hangStart cfg ts slot (.drain clock)) slot
      (drainHbpToIpscQueue cfg clock slot).1 := by
  have turn := drainHbpToIpscQueue_turn cfg clock slot
  generalize (drainHbpToIpscQueue cfg clock slot).1 = after at turn ⊢
  generalize (drainHbpToIpscQueue cfg clock slot).2 = actions at turn
  cases turn with
  | empty after idle drained =>
      simp only [SlotEvent.hangStart, idle]
      rw [drained]
      exact hbpIpscQueueDrained_hold cfg owned rfl
  | last entry sent after actions single passed drained =>
      simp only [SlotEvent.hangStart, single]
      rw [drained]
      exact hbpIpscQueueDrained_hold cfg owned passed.lock
  | more entry next rest sent actions handle several passed =>
      have waiting : sent.tx.queue ≠ [] := by simp [passed.tx]
      refine .of_busy owned ?_ ((directionActive_hbp _).mpr (.inr (.inr waiting)))
      rw [show ({ sent with tx := _ } : Slot).lock = slot.lock from passed.lock]
      exact .refl _

/-- A timeout of the outbound call leaves a lock alone that IPSC does not own. -/
theorem checkOutTimeout_held (cfg : Config) (timeout now releaseAt : Time) {slot : Slot}
    (other : slot.lock.owner ≠ some .ipsc) :
    ∃ outCall, checkOutTimeout cfg timeout now releaseAt slot = { slot with outCall := outCall } := by
  unfold checkOutTimeout
  split
  case isTrue =>
    refine ⟨{ slot.outCall with streamId := none, lc := none, embLc := none }, ?_⟩
    rw [releaseCallLock_of_other other]
  case isFalse => exact ⟨slot.outCall, rfl⟩

/-- A timeout keeps the hold; the end of a silent HBP call starts the hang time. -/
theorem checkCallTimeouts_hold {cfg : Config} (enabled : cfg.ipscCallLock = true) (timeout : Time)
    (clock : Clock) (ts : Timeslot) {slot : Slot} (owned : slot.lock.owner = some .hbp) :
    HoldStep cfg (SlotEvent.hangStart cfg ts slot (.checkCallTimeouts timeout clock)) slot
      (checkCallTimeouts cfg timeout clock ts slot) := by
  have notIpsc : slot.lock.owner ≠ some .ipsc := by rw [owned]; decide
  obtain ⟨outCall, framed⟩ := checkOutTimeout_held cfg timeout (clock 0) (clock (timeoutReading ts))
    notIpsc
  have released : releaseCallLock cfg .hbp (clock (timeoutReading ts + 1)) slot.lock =
      { slot.lock with lockUntil := clock (timeoutReading ts + 1) + cfg.hang } :=
    releaseCallLock_of_owner enabled owned
  unfold checkCallTimeouts checkInTimeout
  rw [framed]
  by_cases silent : slot.inCall.lc.isSome = true ∧ timeout < clock 0 - slot.inCall.lastPkt
  · rw [if_pos (by simpa using silent)]
    exact .of_start owned (.refl _) (if_pos silent) released
  · rw [if_neg (by simpa using silent)]
    exact .of_same owned (.refl _) rfl (if_neg silent)

/-- Every step but a reset keeps a live hold. -/
theorem slotStep_hold (dmr : DmrUtils) {cfg : Config} (enabled : cfg.ipscCallLock = true)
    (ts : Timeslot) (shared : Shared) {slot : Slot} {part : SlotEvent}
    (owned : slot.lock.owner = some .hbp) (kept : ¬ part.Resets)
    (alive : ∀ packet ∈ part.lockPacket, callLockIsActive slot packet.now = true) :
    HoldStep cfg (part.hangStart cfg ts slot) slot (slotStep dmr cfg ts shared slot part).2.1 := by
  cases part with
  | ipscVoice connected data burstType urandom clock =>
      refine ipscVoiceReceived_hold dmr cfg connected data ts burstType urandom clock shared owned ?_
      rintro rfl
      exact alive _ rfl
  | hbpFrame frame draw clock =>
      exact hbpFrameReceived_hold dmr enabled ts frame draw clock shared owned (alive _ rfl)
  | drain clock => exact drainHbpToIpscQueue_hold cfg ts clock owned
  | checkCallTimeouts timeout clock => exact checkCallTimeouts_hold enabled timeout clock ts owned
  | peerLost | hbpDisconnected => exact absurd trivial kept

/-- HBP holds the lock for a talkgroup; while it is not busy, the hang time runs from its last start. -/
structure HoldsFor (cfg : Config) (group : Bytes) (slot : Slot) (started : Option Time) : Prop where
  owner : slot.lock.owner = some .hbp
  tg : slot.lock.tg = some group
  hang : HbpBusy slot ∨ ∀ time ∈ started, slot.lock.lockUntil = time + cfg.hang

/-- A reading lies in the hold while HBP is busy or up to the hang time after its last start. -/
def InHold (cfg : Config) (slot : Slot) (started : Option Time) (now : Time) : Prop :=
  HbpBusy slot ∨ ∃ time ∈ started, now ≤ time + cfg.hang

instance (cfg : Config) (slot : Slot) (started : Option Time) (now : Time) :
    Decidable (InHold cfg slot started now) :=
  inferInstanceAs (Decidable (_ ∨ _))

/-- The lock is live throughout the hold. -/
theorem HoldsFor.alive {cfg : Config} {group : Bytes} {slot : Slot} {started : Option Time}
    (holds : HoldsFor cfg group slot started) {now : Time} (inside : InHold cfg slot started now) :
    callLockIsActive slot now = true := by
  have live : HbpBusy slot → callLockIsActive slot now = true := fun busy =>
    callLockIsActive_of_directionActive holds.owner busy now
  rcases inside with busy | ⟨time, known, inTime⟩
  · exact live busy
  · rcases holds.hang with busy | hang
    · exact live busy
    · simp [callLockIsActive, holds.owner, hang time known, inTime]

/-- The call that takes the lock holds it for its talkgroup. -/
theorem slotStep_acquires (dmr : DmrUtils) {cfg : Config} (enabled : cfg.ipscCallLock = true)
    (ts : Timeslot) (shared : Shared) {slot : Slot} {part : SlotEvent} {group : Bytes}
    (taken : Acquires group slot part) :
    HoldsFor cfg group (slotStep dmr cfg ts shared slot part).2.1 (part.hangStart cfg ts slot) := by
  cases part with
  | hbpFrame frame draw clock =>
      obtain ⟨rfl, fresh, free⟩ := taken
      have free : slot.lock.owner = none ∨
          callLockIsActive { slot with inCall.lastPkt := clock 0 } (clock 1) = false := free
      obtain ⟨blocked, lock, decided, verdict⟩ := callLockBlocks_verdict cfg
        { slot with inCall.lastPkt := clock 0 } (.hbp frame.stream) frame.srcSub frame.dstGroup
        frame.isTerm (clock 1)
      have opened : blocked = false ∧ lock.owner = some .hbp ∧ lock.tg = some frame.dstGroup := by
        have contested : ∀ {owner : Direction}, slot.lock.owner = some owner →
            callLockIsActive { slot with inCall.lastPkt := clock 0 } (clock 1) = true → False := by
          intro owner owned active
          rcases free with unowned | lapsed
          · rw [owned] at unowned
            cases unowned
          · rw [active] at lapsed
            cases lapsed
        cases verdict with
        | off disabled =>
            rw [enabled] at disabled
            cases disabled
        | rejected lock same known =>
            rw [show ((slot.lock.prune (clock 1)).blocked (.hbp frame.stream)).isSome = true from
              known] at fresh
            cases fresh
        | acquired lock fresh free owner tg => exact ⟨rfl, owner, tg⟩
        | continued lock fresh same owner active => exact (contested owner active).elim
        | otherGroup lock fresh same owner active => exact (contested owner active).elim
        | collision lock same owner active => exact (contested owner active).elim
      obtain ⟨rfl, owner, tg⟩ := opened
      have step := hbpFrameReceived_admittedHold dmr enabled ts frame draw clock shared decided owner
      refine ⟨step.owner, step.tg.trans tg, ?_⟩
      rcases step.hang with busy | ⟨time, starting, written⟩ | ⟨silent, -⟩
      · exact .inl busy
      · refine .inr fun other known => ?_
        obtain rfl := Option.some.inj (starting.symm.trans known)
        exact written
      · refine .inr fun other known => ?_
        rw [silent] at known
        cases known
  | ipscVoice | drain | checkCallTimeouts | peerLost | hbpDisconnected => exact taken.elim

/-- The hold outlasts every callback whose packet arrives in it. -/
theorem HoldsFor.slotStep {cfg : Config} {group : Bytes} {slot : Slot} {started : Option Time}
    (holds : HoldsFor cfg group slot started) (dmr : DmrUtils) (enabled : cfg.ipscCallLock = true)
    (ts : Timeslot) (shared : Shared) {part : SlotEvent} (kept : ¬ part.Resets)
    (inside : ∀ packet ∈ part.lockPacket, InHold cfg slot started packet.now) :
    HoldsFor cfg group (slotStep dmr cfg ts shared slot part).2.1
      ((part.hangStart cfg ts slot).or started) := by
  have step := slotStep_hold dmr enabled ts shared holds.owner kept fun packet handed =>
    holds.alive (inside packet handed)
  refine ⟨step.owner, step.tg.trans holds.tg, ?_⟩
  rcases step.hang with busy | ⟨time, starting, written⟩ | ⟨silent, quiet, same⟩
  · exact .inl busy
  · refine .inr fun other known => ?_
    rw [starting] at known
    obtain rfl := Option.some.inj known
    exact written
  · rw [silent, Option.none_or]
    rcases holds.hang with busy | hang
    · exact absurd busy quiet
    · exact .inr fun time known => same.trans (hang time known)

/-- A live hold rejects every IPSC packet for its talkgroup. -/
theorem HoldsFor.rejects {cfg : Config} {group : Bytes} {slot : Slot} {started : Option Time}
    (holds : HoldsFor cfg group slot started) (dmr : DmrUtils) (enabled : cfg.ipscCallLock = true)
    (ts : Timeslot) (shared : Shared) {data : Bytes} (addressed : gvDstGroup data = group)
    (burstType : UInt8) (urandom : StreamId) {clock : Clock}
    (inside : InHold cfg slot started (clock 2)) :
    (SlotEvent.ipscVoice true data burstType urandom clock).Rejected cfg slot ∧
      (ipscVoiceReceived dmr cfg true data ts burstType urandom clock shared slot).2.2 = [] := by
  have notIpsc : slot.lock.owner ≠ some .ipsc := by rw [holds.owner]; decide
  obtain ⟨outCall, framed⟩ := legacyPrelude_held cfg data burstType clock notIpsc
  have live : callLockIsActive { slot with outCall := outCall } (clock 2) = true := by
    have alive := holds.alive inside
    unfold callLockIsActive at alive ⊢
    simp only [holds.owner] at alive ⊢
    exact alive
  obtain ⟨blocked, lock, decided, verdict⟩ := callLockBlocks_verdict cfg
    { slot with outCall := outCall } (.ipsc data[gvIpscSeqOff]?) (gvSrcSub data)
    (gvDstGroup data) (burstType = voiceTerm) (clock 2)
  have rejected : blocked = true := by
    cases verdict with
    | off disabled =>
        rw [enabled] at disabled
        cases disabled
    | rejected | collision => rfl
    | acquired lock fresh free =>
        rcases free with unowned | lapsed
        · cases holds.owner.symm.trans unowned
        · rw [live] at lapsed
          cases lapsed
    | continued lock fresh same owner => exact absurd owner notIpsc
    | otherGroup lock fresh same owner active sameTgOnly differs =>
        refine absurd ?_ differs
        rw [addressed]
        exact holds.tg
  subst rejected
  have answered : (ipscLockPacket data burstType clock).test cfg
      (legacyPrelude cfg data burstType clock slot).2 =
        (true, { slot with outCall := outCall, lock := lock }) := by
    rw [framed]
    exact decided
  refine ⟨⟨_, rfl, congrArg Prod.fst answered⟩, ?_⟩
  have tested := ipscVoiceReceived_tested dmr cfg data ts burstType urandom clock shared slot
  generalize ipscVoiceReceived dmr cfg true data ts burstType urandom clock shared slot = result
    at tested
  cases tested with
  | stale | rejected => rfl
  | admitted before result answer =>
      obtain ⟨letIn, -⟩ := Prod.mk.inj (answered.symm.trans answer)
      cases letIn

end Ipsc2Hbp
