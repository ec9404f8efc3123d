import Ipsc2Hbp.Construction.DmrCodec
import Ipsc2Hbp.Construction.Packets
import Ipsc2Hbp.Proof.GeneratedCalls

namespace Ipsc2Hbp
open BigEndian

/-- A GROUP_VOICE packet without its stream byte, call type and call control. -/
def maskGv (packet : Bytes) : Bytes :=
  (((((packet.set 5 0).set 12 0).set 13 0).set 14 0).set 15 0).set 16 0

/-- A DMRD frame without its sequence byte. -/
def maskDmrd (dmrd : Bytes) : Bytes := dmrd.set 4 0

def QueueEntry.masked (entry : QueueEntry) : QueueEntry := { entry with packet := maskGv entry.packet }

/-- An effect without the bytes that both timeslots share. -/
def Action.masked : Action → Action
  | .openStream streamId lc => .openStream streamId lc
  | .sendDmrd dmrd => .sendDmrd (maskDmrd dmrd)
  | .generate entry => .generate entry.masked
  | .queueFull entry => .queueFull entry.masked
  | .slotBusy entry => .slotBusy entry.masked
  | .sendToPeer entry => .sendToPeer entry.masked
  | .raised err => .raised err

/-- A slot without its stream byte and without the shared bytes of the waiting packets. -/
def Slot.masked (slot : Slot) : Slot :=
  { slot with inCall.streamId := 0, tx.queue := slot.tx.queue.map QueueEntry.masked }

/-- A slot with another stream byte and another queue. -/
def Slot.relabel (slot : Slot) (streamByte : UInt8) (queue : List QueueEntry) : Slot :=
  { slot with inCall.streamId := streamByte, tx.queue := queue }

/-- Two slots differ at most in the stream byte and the shared bytes of their waiting packets. -/
def Alike (one two : Slot) : Prop :=
  ∃ streamByte queue, two = one.relabel streamByte queue ∧
    queue.map QueueEntry.masked = one.tx.queue.map QueueEntry.masked

theorem Alike.refl (slot : Slot) : Alike slot slot := ⟨slot.inCall.streamId, slot.tx.queue, rfl, rfl⟩

/-- Alike slots agree once they are masked. -/
theorem Alike.masked {one two : Slot} (alike : Alike one two) : one.masked = two.masked := by
  obtain ⟨streamByte, queue, rfl, same⟩ := alike
  rw [Slot.masked, Slot.masked, ← same]
  rfl

/-- Alike slots with alike effects. -/
structure AlikeResult (one two : Slot × List Action) : Prop where
  slot : Alike one.1 two.1
  actions : one.2.map Action.masked = two.2.map Action.masked

/-- Alike queues are empty together. -/
theorem isEmpty_of_masked {queue other : List QueueEntry}
    (same : queue.map QueueEntry.masked = other.map QueueEntry.masked) :
    queue.isEmpty = other.isEmpty := by
  cases queue <;> cases other <;> simp at same ⊢

section Relabel
variable (cfg : Config) (slot : Slot) (streamByte : UInt8) (queue : List QueueEntry)

theorem directionActive_relabel (empty : queue.isEmpty = slot.tx.queue.isEmpty)
    (direction : Direction) :
    directionActive (slot.relabel streamByte queue) direction = directionActive slot direction := by
  cases direction with
  | ipsc => rfl
  | hbp => simp only [directionActive, Slot.relabel, empty]

/-- The call lock acts alike on relabelled slots. -/
theorem callLockBlocks_relabel (empty : queue.isEmpty = slot.tx.queue.isEmpty) (key : StreamKey)
    (srcSub dstGroup : Bytes) (isEnd : Bool) (now : Time) :
    callLockBlocks cfg (slot.relabel streamByte queue) key srcSub dstGroup isEnd now =
      Prod.map id (Slot.relabel · streamByte queue)
        (callLockBlocks cfg slot key srcSub dstGroup isEnd now) := by
  have active : ∀ lock, callLockIsActive { slot.relabel streamByte queue with lock := lock } now =
      callLockIsActive { slot with lock := lock } now := fun lock => by
    unfold callLockIsActive
    dsimp only
    split
    case h_1 => rfl
    case h_2 owner owned =>
      have same := directionActive_relabel { slot with lock := lock } streamByte queue empty owner
      dsimp only [Slot.relabel] at same ⊢
      rw [same]
  unfold callLockBlocks
  dsimp only [Slot.relabel] at active ⊢
  simp only [active]
  split
  case isTrue => rfl
  case isFalse =>
    split
    case isTrue => rfl
    case isFalse =>
      generalize ((slot.lock.prune now).owner.isSome &&
        !callLockIsActive { slot with lock := slot.lock.prune now } now) = lapsed
      cases lapsed with
      | true => rfl
      | false =>
          simp only [Bool.false_eq_true, if_false]
          split
          case h_1 => rfl
          case h_2 =>
            split_ifs <;> rfl

/-- The legacy stream test acts alike on relabelled slots. -/
theorem legacyIpscStreamDrop_relabel (ipscStream : Option UInt8) (burstType : UInt8) (now : Time) :
    legacyIpscStreamDrop cfg ipscStream burstType now (slot.relabel streamByte queue) =
      Prod.map id (Slot.relabel · streamByte queue)
        (legacyIpscStreamDrop cfg ipscStream burstType now slot) := by
  unfold legacyIpscStreamDrop
  split
  case h_1 => rfl
  case h_2 => rfl
  case h_3 =>
    split
    case isTrue =>
      dsimp only [Slot.relabel, Prod.map]
      split_ifs <;> rfl
    case isFalse => rfl

/-- The reflection test acts alike on relabelled slots. -/
theorem shouldSuppressIpscReflection_relabel (ipscStream : Option UInt8) (burstType : UInt8)
    (srcSub dstGroup : Bytes) (now : Time) :
    shouldSuppressIpscReflection cfg ipscStream burstType srcSub dstGroup now
        (slot.relabel streamByte queue) =
      Prod.map id (Slot.relabel · streamByte queue)
        (shouldSuppressIpscReflection cfg ipscStream burstType srcSub dstGroup now slot) := by
  unfold shouldSuppressIpscReflection
  cases ipscStream with
  | none =>
      simp only [apply_ite (Prod.map id (Slot.relabel · streamByte queue))]
      rfl
  | some ipscByte =>
      simp only [apply_ite (Prod.map id (Slot.relabel · streamByte queue))]
      rfl

/-- A burst on the relabelled slot. -/
def Burst.relabel (streamByte : UInt8) (queue : List QueueEntry) : Burst → Burst
  | .done slot actions => .done (slot.relabel streamByte queue) actions
  | .frame slot actions payload flags => .frame (slot.relabel streamByte queue) actions payload flags

/-- The branches on the burst type act alike on relabelled slots. -/
theorem burstOf_relabel (dmr : DmrUtils) (data srcSub dstGroup : Bytes) (burstType : UInt8)
    (urandom : StreamId) :
    burstOf dmr cfg data srcSub dstGroup burstType urandom (slot.relabel streamByte queue) =
      (burstOf dmr cfg data srcSub dstGroup burstType urandom slot).relabel streamByte queue := by
  unfold burstOf
  split
  case isTrue =>
    unfold headBurst
    dsimp only [Slot.relabel]
    split
    case h_1 => rfl
    case h_2 => split <;> rfl
  case isFalse =>
    split
    case isTrue =>
      unfold termBurst
      dsimp only [Slot.relabel]
      split <;> rfl
    case isFalse =>
      unfold voiceBurst openVoiceBurst
      dsimp only [Slot.relabel]
      split
      case h_1 => split <;> rfl
      case h_2 =>
        split
        case isTrue => rfl
        case isFalse =>
          split
          case h_1 => rfl
          case h_2 => split_ifs <;> rfl

/-- Frames that differ only in their sequence bytes are sent alike. -/
theorem sendFrames_masked (frame : UInt8 → Bytes)
    (sameFrame : ∀ one two, maskDmrd (frame one) = maskDmrd (frame two)) (count : Nat)
    (one two : UInt8) :
    (sendFrames frame count one).map Action.masked = (sendFrames frame count two).map Action.masked := by
  induction count generalizing one two with
  | zero => rfl
  | succ count ih =>
      simp only [sendFrames, List.map_cons, Action.masked, sameFrame one two, ih (one + 1) (two + 1)]

/-- A burst is sent alike from relabelled slots, whatever the shared fields are. -/
theorem sendBurst_relabel (ts : Timeslot) (srcSub dstGroup : Bytes) (burstType : UInt8) (now : Time)
    (one two : Shared) (burst : Burst) :
    let left := sendBurst cfg ts srcSub dstGroup burstType now one burst
    let right := sendBurst cfg ts srcSub dstGroup burstType now two (burst.relabel streamByte queue)
    right.2.1 = left.2.1.relabel streamByte queue ∧
      left.2.2.map Action.masked = right.2.2.map Action.masked := by
  cases burst with
  | done slot actions => exact ⟨rfl, rfl⟩
  | frame slot actions payload flags =>
      have same : (slot.relabel streamByte queue).outCall.streamId = slot.outCall.streamId := rfl
      cases opened : slot.outCall.streamId with
      | none =>
          simp only [sendBurst, Burst.relabel, same, opened, and_self]
      | some streamId =>
          simp only [sendBurst, Burst.relabel, same, opened, List.map_append]
          refine ⟨?_, congrArg _ (sendFrames_masked _ (fun _ _ => rfl) _ _ _)⟩
          split <;> rfl

/-- The gate acts alike on relabelled slots. -/
theorem ipscGate_relabel (empty : queue.isEmpty = slot.tx.queue.isEmpty) (data : Bytes)
    (burstType : UInt8) (clock : Clock) :
    ipscGate cfg data burstType clock (slot.relabel streamByte queue) =
      Prod.map id (Slot.relabel · streamByte queue) (ipscGate cfg data burstType clock slot) := by
  have before : legacyPrelude cfg data burstType clock (slot.relabel streamByte queue) =
      Prod.map id (Slot.relabel · streamByte queue) (legacyPrelude cfg data burstType clock slot) :=
    legacyIpscStreamDrop_relabel cfg { slot with outCall.lastPkt := clock 0 } streamByte queue _ _ _
  have waiting := legacyPrelude_side cfg data burstType clock slot
  unfold ipscGate
  rw [before]
  generalize legacyPrelude cfg data burstType clock slot = prelude at waiting
  simp only [Prod.map_fst, Prod.map_snd, id]
  rw [← waiting.tx] at empty
  split
  case isTrue => rfl
  case isFalse =>
    rw [callLockBlocks_relabel cfg prelude.2 streamByte queue empty]
    simp only [Prod.map_fst, Prod.map_snd, id, shouldSuppressIpscReflection_relabel]
    split_ifs <;> rfl

/-- An IPSC packet acts alike on relabelled slots, whatever the shared fields are. -/
theorem ipscVoiceReceived_relabel (empty : queue.isEmpty = slot.tx.queue.isEmpty) (dmr : DmrUtils)
    (connected : Bool) (data : Bytes) (ts : Timeslot) (burstType : UInt8) (urandom : StreamId)
    (clock : Clock) (one two : Shared) :
    let left := ipscVoiceReceived dmr cfg connected data ts burstType urandom clock one slot
    let right := ipscVoiceReceived dmr cfg connected data ts burstType urandom clock two
      (slot.relabel streamByte queue)
    right.2.1 = left.2.1.relabel streamByte queue ∧
      left.2.2.map Action.masked = right.2.2.map Action.masked := by
  cases connected with
  | false => exact ⟨rfl, rfl⟩
  | true =>
      simp only [ipscVoiceReceived_eq, ipscGate_relabel cfg slot streamByte queue empty, Prod.map_fst,
        Prod.map_snd, id]
      split
      case isTrue => exact ⟨rfl, rfl⟩
      case isFalse =>
        rw [burstOf_relabel]
        exact sendBurst_relabel cfg streamByte queue ts _ _ burstType (clock 5) _ _ _

/-- The hang time restarts alike on relabelled slots. -/
theorem hbpIpscQueueDrained_relabel (now : Time) :
    hbpIpscQueueDrained cfg now (slot.relabel streamByte queue) =
      (hbpIpscQueueDrained cfg now slot).relabel streamByte queue := by
  unfold hbpIpscQueueDrained
  simp only [apply_ite (Slot.relabel · streamByte queue)]
  rfl

/-- Scheduling a drain acts alike on relabelled slots. -/
theorem scheduleHbpToIpscDrain_relabel (empty : queue.isEmpty = slot.tx.queue.isEmpty) (now : Time) :
    scheduleHbpToIpscDrain cfg now (slot.relabel streamByte queue) =
      (scheduleHbpToIpscDrain cfg now slot).relabel streamByte queue := by
  unfold scheduleHbpToIpscDrain hbpIpscQueueDrained
  have waiting : (slot.relabel streamByte queue).tx.queue.isEmpty = slot.tx.queue.isEmpty := empty
  simp only [waiting, apply_ite (Slot.relabel · streamByte queue)]
  rfl

/-- Remembering a packet acts alike on relabelled slots. -/
theorem rememberHbpToIpsc_relabel (srcSub dstGroup : Bytes) (now : Time) :
    rememberHbpToIpsc cfg srcSub dstGroup now (slot.relabel streamByte queue) =
      (rememberHbpToIpsc cfg srcSub dstGroup now slot).relabel streamByte queue := by
  unfold rememberHbpToIpsc
  dsimp only [Slot.relabel]
  split_ifs <;> rfl

end Relabel

section Alike
variable {cfg : Config} {one two : Slot} {oneEntry twoEntry : QueueEntry}

/-- Effects in a row are alike when each is. -/
theorem AlikeResult.append {first second : Slot × List Action} {oneNext twoNext : Slot × List Action}
    (before : AlikeResult first second) (next : AlikeResult oneNext twoNext) :
    AlikeResult (oneNext.1, first.2 ++ oneNext.2) (twoNext.1, second.2 ++ twoNext.2) :=
  ⟨next.slot, by rw [List.map_append, List.map_append, before.actions, next.actions]⟩

/-- Alike packets leave alike. -/
theorem Alike.sendNow (alike : Alike one two) (same : oneEntry.masked = twoEntry.masked)
    (clock : Clock) :
    AlikeResult (sendHbpToIpscNow cfg oneEntry clock one) (sendHbpToIpscNow cfg twoEntry clock two) := by
  obtain ⟨streamByte, queue, rfl, queues⟩ := alike
  have srcSub : oneEntry.srcSub = twoEntry.srcSub := (QueueEntry.mk.inj same).2.1
  have dstGroup : oneEntry.dstGroup = twoEntry.dstGroup := (QueueEntry.mk.inj same).2.2.1
  have busy : isIpscSlotBusy cfg (clock 0) (one.relabel streamByte queue) =
      isIpscSlotBusy cfg (clock 0) one := rfl
  unfold sendHbpToIpscNow
  rw [busy]
  split
  case isTrue => exact ⟨⟨streamByte, queue, rfl, queues⟩, by simp [Action.masked, same]⟩
  case isFalse =>
    rw [srcSub, dstGroup, rememberHbpToIpsc_relabel]
    refine ⟨⟨streamByte, queue, rfl, ?_⟩, by simp [Action.masked, same]⟩
    obtain ⟨reflect, remembered⟩ := rememberHbpToIpsc_frame cfg twoEntry.srcSub twoEntry.dstGroup
      (clock 1) one
    rw [remembered]
    exact queues

/-- Alike queues are scheduled alike. -/
theorem Alike.schedule (alike : Alike one two) (now : Time) :
    Alike (scheduleHbpToIpscDrain cfg now one) (scheduleHbpToIpscDrain cfg now two) := by
  obtain ⟨streamByte, queue, rfl, queues⟩ := alike
  obtain ⟨handle, lockUntil, framed⟩ := scheduleHbpToIpscDrain_frame cfg now one
  refine ⟨streamByte, queue, scheduleHbpToIpscDrain_relabel cfg one streamByte queue
    (isEmpty_of_masked queues) now, ?_⟩
  rw [framed]
  exact queues

/-- The hang time restarts alike. -/
theorem Alike.drained (alike : Alike one two) (now : Time) :
    Alike (hbpIpscQueueDrained cfg now one) (hbpIpscQueueDrained cfg now two) := by
  obtain ⟨streamByte, queue, rfl, queues⟩ := alike
  obtain ⟨lockUntil, framed⟩ := hbpIpscQueueDrained_frame cfg now one
  refine ⟨streamByte, queue, hbpIpscQueueDrained_relabel cfg one streamByte queue now, ?_⟩
  rw [framed]
  exact queues

/-- The queues of alike slots are empty together. -/
theorem Alike.isEmpty (alike : Alike one two) : two.tx.queue.isEmpty = one.tx.queue.isEmpty := by
  obtain ⟨streamByte, queue, rfl, queues⟩ := alike
  exact isEmpty_of_masked queues

/-- Alike packets are passed on alike. -/
theorem Alike.send (alike : Alike one two) (same : oneEntry.masked = twoEntry.masked)
    (clock : Clock) :
    AlikeResult (sendHbpToIpsc cfg oneEntry clock one) (sendHbpToIpsc cfg twoEntry clock two) := by
  unfold sendHbpToIpsc
  split
  case isTrue =>
    have sent : AlikeResult (sendHbpToIpscNow cfg _ clock _) (sendHbpToIpscNow cfg _ clock _) :=
      alike.sendNow same clock
    exact ⟨sent.slot, by simp [Action.masked, same, sent.actions]⟩
  case isFalse =>
    obtain ⟨streamByte, queue, rfl, queues⟩ := alike
    have length : (one.relabel streamByte queue).tx.queue.length = one.tx.queue.length := by
      have counted := congrArg List.length queues
      rwa [List.length_map, List.length_map] at counted
    rw [length]
    split
    case isTrue => exact ⟨⟨streamByte, queue, rfl, queues⟩, by simp [Action.masked, same]⟩
    case isFalse =>
      refine ⟨?_, by simp [Action.masked, same]⟩
      have longer : Alike { one with tx.queue := one.tx.queue ++ [oneEntry] }
          { one.relabel streamByte queue with tx.queue := queue ++ [twoEntry] } :=
        ⟨streamByte, queue ++ [twoEntry], rfl, by simp [queues, same]⟩
      change Alike (if one.tx.handle.isNone then _ else _) (if one.tx.handle.isNone then _ else _)
      split
      case isTrue => exact longer.schedule (clock 0)
      case isFalse => exact longer

/-- Alike queues are drained alike. -/
theorem Alike.drain (alike : Alike one two) (clock : Clock) :
    AlikeResult (drainHbpToIpscQueue cfg clock one) (drainHbpToIpscQueue cfg clock two) := by
  obtain ⟨streamByte, queue, rfl, queues⟩ := alike
  obtain ⟨outCall, inCall, lock, ⟨oneQueue, handle, nextAt⟩, reflect, busyLast⟩ := one
  cases oneQueue with
  | nil =>
      obtain rfl : queue = [] := by simpa using queues
      have start : Alike ⟨outCall, inCall, lock, ⟨[], none, nextAt⟩, reflect, busyLast⟩
          (Slot.relabel ⟨outCall, inCall, lock, ⟨[], none, nextAt⟩, reflect, busyLast⟩ streamByte []) :=
        ⟨streamByte, [], rfl, rfl⟩
      exact ⟨start.drained (clock 0), rfl⟩
  | cons entry rest =>
      cases queue with
      | nil => simp at queues
      | cons other others =>
          obtain ⟨same, restSame⟩ := List.cons.inj queues
          have start : Alike ⟨outCall, inCall, lock, ⟨rest, none, nextAt⟩, reflect, busyLast⟩
              (Slot.relabel ⟨outCall, inCall, lock, ⟨rest, none, nextAt⟩, reflect, busyLast⟩ streamByte
                others) := ⟨streamByte, others, rfl, restSame⟩
          have sent : AlikeResult (sendHbpToIpscNow cfg entry clock _)
            (sendHbpToIpscNow cfg other clock _) := start.sendNow same.symm clock
          unfold drainHbpToIpscQueue
          dsimp only [Slot.relabel] at sent ⊢
          refine ⟨?_, sent.actions⟩
          have timed : ∀ {left right : Slot}, Alike left right → ∀ nextAt,
              Alike { left with tx.nextAt := nextAt } { right with tx.nextAt := nextAt } := by
            rintro left right ⟨streamByte, queue, rfl, queues⟩ nextAt
            exact ⟨streamByte, queue, rfl, queues⟩
          have waits := timed sent.slot (clock 2 + cfg.frameInterval)
          rw [waits.isEmpty]
          split
          case isTrue => exact waits.schedule (clock 3)
          case isFalse => exact waits.drained (clock 3)

/-- A built packet without its shared bytes shows neither the learned fields nor the stream byte. -/
theorem maskGv_buildGv (cfg : Config) {shared : Shared} (wide : shared.Wide) {srcSub dstGroup : Bytes}
    (srcWide : srcSub.length = 3) (dstWide : dstGroup.length = 3) (callInfo : UInt8)
    (rtpHdr gvPayload : Bytes) (streamId : UInt8) :
    maskGv (buildGv cfg shared srcSub dstGroup callInfo rtpHdr gvPayload streamId) =
      buildGv cfg { peerCallType := [0], peerCallCtrl := [0, 0, 0, 0] } srcSub dstGroup callInfo rtpHdr
        gvPayload 0 := by
  obtain ⟨s0, s1, s2, rfl⟩ := List.length_eq_three.mp srcWide
  obtain ⟨d0, d1, d2, rfl⟩ := List.length_eq_three.mp dstWide
  obtain ⟨callType, callTypeWide⟩ := List.length_eq_one_iff.mp wide.peerCallType
  obtain ⟨c0, c1, c2, c3, callCtrl⟩ := List.length_eq_four.mp wide.peerCallCtrl
  simp only [maskGv, buildGv, callTypeWide, callCtrl, natToBytes_four, List.cons_append,
    List.nil_append, List.set_cons_zero, List.set_cons_succ]

end Alike

section Frame
variable {dmr : DmrUtils} {cfg : Config} {one two : Slot} {oneShared twoShared : Shared}
  {frame : HbpFrame}

/-- Alike calls generate alike packets. -/
theorem Alike.generate (alike : Alike one two) (oneWide : oneShared.Wide) (twoWide : twoShared.Wide)
    (frameWide : frame.Wide) (callInfo rtpPt : UInt8) (gvPayload : Bytes) (burstType : UInt8)
    (clock : Clock) :
    AlikeResult (generatePacket cfg oneShared frame callInfo rtpPt gvPayload burstType clock one)
      (generatePacket cfg twoShared frame callInfo rtpPt gvPayload burstType clock two) := by
  obtain ⟨streamByte, queue, rfl, queues⟩ := alike
  have advanced : Alike { one with inCall := one.inCall.advance }
      { one.relabel streamByte queue with inCall := (one.relabel streamByte queue).inCall.advance } :=
    ⟨streamByte, queue, rfl, queues⟩
  have same : (callEntry cfg oneShared frame callInfo rtpPt gvPayload burstType one.inCall).masked =
      (callEntry cfg twoShared frame callInfo rtpPt gvPayload burstType
        (one.relabel streamByte queue).inCall).masked := by
    simp only [QueueEntry.masked, callEntry, callPacket,
      maskGv_buildGv cfg oneWide frameWide.srcSub frameWide.dstGroup,
      maskGv_buildGv cfg twoWide frameWide.srcSub frameWide.dstGroup]
    rfl
  exact advanced.send same clock

/-- The headers of alike calls are generated alike. -/
theorem Alike.emitHeads (alike : Alike one two) (oneWide : oneShared.Wide) (twoWide : twoShared.Wide)
    (frameWide : frame.Wide) (lc : Bytes) (clock : Clock) (count idx : Nat) :
    AlikeResult (emitHeads dmr cfg oneShared frame lc clock count idx one)
      (emitHeads dmr cfg twoShared frame lc clock count idx two) := by
  induction count generalizing idx one two with
  | zero => exact ⟨alike, rfl⟩
  | succ count ih =>
      have sent : AlikeResult (generatePacket cfg oneShared frame _ _ _ _ _ one)
        (generatePacket cfg twoShared frame _ _ _ _ _ two) :=
        alike.generate oneWide twoWide frameWide frame.callInfo (if idx = 0 then 0xdd else 0x5d)
          ([voiceHead] ++ buildIpscVoicePayload dmr lc voiceHead) voiceHead
          (fun reading => clock (2 * idx + reading))
      exact sent.append (ih sent.slot (idx + 1))

/-- Alike calls start alike. -/
theorem Alike.start (alike : Alike one two) (oneWide : oneShared.Wide) (twoWide : twoShared.Wide)
    (frameWide : frame.Wide) (clock : Clock) :
    AlikeResult (emitHbpIpscStart dmr cfg oneShared frame clock one)
      (emitHbpIpscStart dmr cfg twoShared frame clock two) := by
  have same : two.inCall.started = one.inCall.started ∧ two.inCall.lc = one.inCall.lc := by
    obtain ⟨streamByte, queue, rfl, -⟩ := alike
    exact ⟨rfl, rfl⟩
  unfold emitHbpIpscStart
  rw [same.1, same.2]
  split
  case isTrue => exact ⟨alike, rfl⟩
  case isFalse =>
    have heads : AlikeResult (Ipsc2Hbp.emitHeads dmr cfg oneShared frame _ clock cfg.headerCount 0 one)
      (Ipsc2Hbp.emitHeads dmr cfg twoShared frame _ clock cfg.headerCount 0 two) :=
      alike.emitHeads oneWide twoWide frameWide
        (truthyOr one.inCall.lc (dmr.lcOpt ++ frame.dstGroup ++ frame.srcSub)) clock cfg.headerCount 0
    refine ⟨?_, heads.actions⟩
    obtain ⟨streamByte, queue, same, queues⟩ := heads.slot
    refine ⟨streamByte, queue, ?_, queues⟩
    dsimp only
    rw [same]
    rfl

/-- Voice bursts of alike calls are generated alike. -/
theorem Alike.continueVoice (alike : Alike one two) (oneWide : oneShared.Wide)
    (twoWide : twoShared.Wide) (frameWide : frame.Wide) (clock : Clock) :
    AlikeResult (continueVoice dmr cfg frame clock oneShared one)
      (continueVoice dmr cfg frame clock twoShared two) := by
  have start : AlikeResult (emitHbpIpscStart dmr cfg oneShared frame _ one)
    (emitHbpIpscStart dmr cfg twoShared frame _ two) :=
    alike.start oneWide twoWide frameWide fun reading => clock (2 + reading)
  have payload : hbpVoicePayload dmr frame
      (emitHbpIpscStart dmr cfg twoShared frame (fun reading => clock (2 + reading)) two).1 =
        hbpVoicePayload dmr frame
      (emitHbpIpscStart dmr cfg oneShared frame (fun reading => clock (2 + reading)) one).1 := by
    obtain ⟨streamByte, queue, same, -⟩ := start.slot
    rw [same]
    rfl
  unfold Ipsc2Hbp.continueVoice
  simp only [payload]
  split
  case h_1 err failed =>
    exact ⟨start.slot, by rw [List.map_append, List.map_append, start.actions]⟩
  case h_2 gvPayload built =>
    exact start.append (start.slot.generate oneWide twoWide frameWide frame.callInfo 0x5d gvPayload
      frame.slotBurst fun reading => clock (12 + reading))

/-- Alike slots open alike calls, whatever the call counters are. -/
theorem Alike.opens (alike : Alike one two) (lc : Bytes) (draw : RtpDraw) (now : Time) :
    Alike (openHbpCall dmr frame lc draw now oneShared one).2
      (openHbpCall dmr frame lc draw now twoShared two).2 := by
  obtain ⟨streamByte, queue, rfl, queues⟩ := alike
  exact ⟨twoShared.inStreamCtr + 1, queue, rfl, queues⟩

theorem openHbpCall_wide {shared : Shared} (wide : shared.Wide) (lc : Bytes) (draw : RtpDraw)
    (now : Time) (slot : Slot) : (openHbpCall dmr frame lc draw now shared slot).1.Wide :=
  ⟨wide.peerCallType, wide.peerCallCtrl⟩

/-- Headers act alike on alike slots. -/
theorem Alike.head (alike : Alike one two) (oneWide : oneShared.Wide) (twoWide : twoShared.Wide)
    (frameWide : frame.Wide) (draw : RtpDraw) (clock : Clock) :
    AlikeResult (hbpHead dmr cfg frame draw clock oneShared one).2
      (hbpHead dmr cfg frame draw clock twoShared two).2 := by
  have duplicate : duplicateHead frame (clock 0) two = duplicateHead frame (clock 0) one := by
    obtain ⟨streamByte, queue, rfl, -⟩ := alike
    rfl
  rw [hbpHead_eq, hbpHead_eq, duplicate]
  split
  case isTrue =>
    obtain ⟨streamByte, queue, rfl, queues⟩ := alike
    exact ⟨⟨streamByte, queue, rfl, queues⟩, rfl⟩
  case isFalse =>
    have opened : Alike (openHbpCall dmr frame _ draw _ oneShared one).2
      (openHbpCall dmr frame _ draw _ twoShared two).2 :=
      alike.opens (decodeHbpVoiceLc dmr frame.payload) draw (clock 0)
    dsimp only
    split
    case isTrue => exact ⟨opened, rfl⟩
    case isFalse =>
      exact opened.start (openHbpCall_wide oneWide ..) (openHbpCall_wide twoWide ..) frameWide _

/-- Calls end alike. -/
theorem Alike.endCall (alike : Alike one two) (now : Time) :
    Alike (endHbpCall cfg now one) (endHbpCall cfg now two) := by
  obtain ⟨streamByte, queue, rfl, queues⟩ := alike
  exact ⟨streamByte, queue, rfl, queues⟩

/-- Terminators act alike on alike slots. -/
theorem Alike.term (alike : Alike one two) (oneWide : oneShared.Wide) (twoWide : twoShared.Wide)
    (frameWide : frame.Wide) (clock : Clock) :
    AlikeResult (hbpTerm dmr cfg frame clock oneShared one)
      (hbpTerm dmr cfg frame clock twoShared two) := by
  have same : two.inCall.started = one.inCall.started ∧ two.inCall.lc = one.inCall.lc := by
    obtain ⟨streamByte, queue, rfl, -⟩ := alike
    exact ⟨rfl, rfl⟩
  unfold hbpTerm
  rw [same.1, same.2]
  split
  case isTrue => exact ⟨alike.endCall (clock 2), rfl⟩
  case isFalse =>
    have sent : AlikeResult (generatePacket cfg oneShared frame _ _ _ _ _ one)
      (generatePacket cfg twoShared frame _ _ _ _ _ two) :=
      alike.generate oneWide twoWide frameWide (frame.callInfo ||| endMsk) 0x5e
        ([voiceTerm] ++ buildIpscVoicePayload dmr
          (truthyOr one.inCall.lc (dmr.lcOpt ++ frame.dstGroup ++ frame.srcSub)) voiceTerm)
        voiceTerm fun reading => clock (2 + reading)
    exact ⟨sent.slot.endCall (clock 4), sent.actions⟩

/-- Voice acts alike on alike slots. -/
theorem Alike.voice (alike : Alike one two) (oneWide : oneShared.Wide) (twoWide : twoShared.Wide)
    (frameWide : frame.Wide) (draw : RtpDraw) (clock : Clock) :
    AlikeResult (hbpVoice dmr cfg frame draw clock oneShared one).2
      (hbpVoice dmr cfg frame draw clock twoShared two).2 := by
  have same : two.inCall.lc = one.inCall.lc := by
    obtain ⟨streamByte, queue, rfl, -⟩ := alike
    rfl
  rw [hbpVoice_eq, hbpVoice_eq, same]
  split
  case isTrue => exact ⟨alike, rfl⟩
  case isFalse =>
    dsimp only
    split
    case isTrue =>
      have opened : Alike (openHbpCall dmr frame _ draw _ oneShared one).2
        (openHbpCall dmr frame _ draw _ twoShared two).2 :=
        alike.opens (frameLc dmr frame) draw (clock 0)
      exact opened.continueVoice (openHbpCall_wide oneWide ..) (openHbpCall_wide twoWide ..) frameWide
        clock
    case isFalse => exact alike.continueVoice oneWide twoWide frameWide clock

/-- Frames that the lock lets in act alike on alike slots. -/
theorem Alike.admitted (alike : Alike one two) (oneWide : oneShared.Wide) (twoWide : twoShared.Wide)
    (frameWide : frame.Wide) (draw : RtpDraw) (clock : Clock) :
    AlikeResult (hbpAdmitted dmr cfg frame draw clock oneShared one).2
      (hbpAdmitted dmr cfg frame draw clock twoShared two).2 := by
  have dropped : legacyHbpStreamDrop cfg frame two = legacyHbpStreamDrop cfg frame one := by
    have empty := alike.isEmpty
    obtain ⟨streamByte, queue, rfl, -⟩ := alike
    unfold legacyHbpStreamDrop
    simp only [empty]
    rfl
  unfold hbpAdmitted
  rw [dropped]
  split
  case isTrue => exact ⟨alike, rfl⟩
  case isFalse =>
    split
    case isTrue => exact alike.head oneWide twoWide frameWide draw clock
    case isFalse =>
      split
      case isTrue => exact alike.term oneWide twoWide frameWide clock
      case isFalse => exact alike.voice oneWide twoWide frameWide draw clock

/-- Frames act alike on alike slots. -/
theorem Alike.hbpFrame (alike : Alike one two) (oneWide : oneShared.Wide) (twoWide : twoShared.Wide)
    (frameWide : frame.Wide) (draw : RtpDraw) (clock : Clock) :
    AlikeResult (hbpFrameReceived dmr cfg frame draw clock oneShared one).2
      (hbpFrameReceived dmr cfg frame draw clock twoShared two).2 := by
  obtain ⟨streamByte, queue, rfl, queues⟩ := alike
  obtain ⟨blocked, lock, decided, -, received⟩ :=
    hbpFrameReceived_decided dmr cfg frame draw clock oneShared one
  obtain ⟨blocked', lock', decided', -, received'⟩ :=
    hbpFrameReceived_decided dmr cfg frame draw clock twoShared (one.relabel streamByte queue)
  have asked := callLockBlocks_relabel cfg { one with inCall.lastPkt := clock 0 } streamByte queue
    (isEmpty_of_masked queues) (.hbp frame.stream) frame.srcSub frame.dstGroup frame.isTerm (clock 1)
  rw [decided] at asked
  obtain ⟨rfl, sameSlot⟩ := Prod.mk.inj (decided'.symm.trans asked)
  obtain rfl : lock' = lock := congrArg Slot.lock sameSlot
  have after : Alike { one with inCall.lastPkt := clock 0, lock := lock' }
      (Slot.relabel { one with inCall.lastPkt := clock 0, lock := lock' } streamByte queue) :=
    ⟨streamByte, queue, rfl, queues⟩
  rw [received, received']
  split
  case isTrue => exact ⟨after, rfl⟩
  case isFalse => exact after.admitted oneWide twoWide frameWide draw clock

/-- Timeouts act alike on alike slots. -/
theorem Alike.timeouts (alike : Alike one two) (timeout : Time) (clock : Clock) (ts : Timeslot) :
    Alike (checkCallTimeouts cfg timeout clock ts one) (checkCallTimeouts cfg timeout clock ts two) := by
  obtain ⟨streamByte, queue, rfl, queues⟩ := alike
  refine ⟨streamByte, queue, ?_, by rw [checkCallTimeouts_tx]; exact queues⟩
  have out : ∀ releaseAt, checkOutTimeout cfg timeout (clock 0) releaseAt (one.relabel streamByte queue) =
      (checkOutTimeout cfg timeout (clock 0) releaseAt one).relabel streamByte queue := fun _ => by
    unfold checkOutTimeout
    simp only [apply_ite (Slot.relabel · streamByte queue)]
    rfl
  have inbound : ∀ releaseAt slot, checkInTimeout cfg timeout (clock 0) releaseAt
      (Slot.relabel slot streamByte queue) =
      (checkInTimeout cfg timeout (clock 0) releaseAt slot).relabel streamByte queue := fun _ slot => by
    unfold checkInTimeout
    simp only [apply_ite (Slot.relabel · streamByte queue)]
    rfl
  unfold checkCallTimeouts
  rw [out, inbound]

/-- Every step of a slot acts alike on alike slots. -/
theorem Alike.slotStep (alike : Alike one two) (oneWide : oneShared.Wide) (twoWide : twoShared.Wide)
    {ts : Timeslot} {part : SlotEvent} (formed : part.Formed ts) :
    AlikeResult (slotStep dmr cfg ts oneShared one part).2 (slotStep dmr cfg ts twoShared two part).2 := by
  cases part with
  | ipscVoice connected data burstType urandom clock =>
      obtain ⟨streamByte, queue, rfl, queues⟩ := alike
      obtain ⟨slot, actions⟩ := ipscVoiceReceived_relabel cfg one streamByte queue
        (isEmpty_of_masked queues) dmr connected data ts burstType urandom clock oneShared twoShared
      obtain ⟨-, tx, -⟩ := ipscVoiceReceived_inbound dmr cfg connected data ts burstType urandom clock
        oneShared one
      have waiting := congrArg (fun tx : TxQueue => tx.queue.map QueueEntry.masked) tx
      exact ⟨⟨streamByte, queue, slot, queues.trans waiting.symm⟩, actions⟩
  | hbpFrame frame draw clock => exact alike.hbpFrame oneWide twoWide formed.1 draw clock
  | drain clock => exact alike.drain clock
  | checkCallTimeouts timeout clock => exact ⟨alike.timeouts timeout clock ts, rfl⟩
  | peerLost | hbpDisconnected =>
      obtain ⟨streamByte, queue, rfl, queues⟩ := alike
      exact ⟨Alike.refl _, rfl⟩

end Frame

/-- The timeslot's slots are alike and the learned fields have their widths. -/
structure SameTimeslot (ts : Timeslot) (one two : Translator) : Prop where
  slot : Alike (one.slot ts) (two.slot ts)
  oneWide : one.shared.Wide
  twoWide : two.shared.Wide

/-- What a log shows of one timeslot, without the shared bytes. -/
def timeslotView (ts : Timeslot) (output : Output) : Option Action :=
  match output with
  | .slot other action => if other = ts then some action.masked else none
  | _ => none

theorem filterMap_timeslotView (ts : Timeslot) (log : List Output) :
    log.filterMap (timeslotView ts) = (slotActions ts log).map Action.masked := by
  rw [slotActions, List.map_filterMap]
  congr 1
  funext output
  cases output with
  | slot other action =>
      simp only [timeslotView]
      split <;> rfl
  | raised | activate | deactivate => rfl

/-- A callback concerns the timeslot. -/
def Event.concerns (ts : Timeslot) (event : Event) : Bool := (event.atSlot ts).isSome

/-- A callback that does not concern the timeslot leaves it alone. -/
theorem Translator.step_elsewhere (dmr : DmrUtils) (cfg : Config) (ts : Timeslot) (tr : Translator)
    {event : Event} (elsewhere : event.concerns ts = false) :
    (Translator.step dmr cfg tr event).1.slot ts = tr.slot ts ∧
      slotActions ts (Translator.step dmr cfg tr event).2 = [] := by
  apply Translator.step_unseen
  simpa [Event.concerns] using elsewhere

/-- For every configuration, two runs whose callbacks of the timeslot and of both timeslots agree end
with the same state of the timeslot and the same effects on it, but for the stream byte of its
inbound call, the sequence bytes of its frames and the bytes 5 and 12 to 16 of its packets,
waiting or sent. -/
theorem timeslots_isolated (dmr : DmrUtils) (cfg : Config) (ts : Timeslot)
    (events others : List Event)
    (agree : events.filter (Event.concerns ts) = others.filter (Event.concerns ts)) :
    let one := (translator dmr cfg).run Translator.initial events
    let two := (translator dmr cfg).run Translator.initial others
    (one.1.slot ts).masked = (two.1.slot ts).masked ∧
      (slotActions ts one.2).map Action.masked = (slotActions ts two.2).map Action.masked := by
  have unwound := (translator dmr cfg).run_unwinding (Event.concerns ts) (timeslotView ts)
    (SameTimeslot ts) ?both ?left ?right events others agree Translator.initial Translator.initial
    ⟨.refl _, Translator.initial_wide, Translator.initial_wide⟩
  · rw [filterMap_timeslotView, filterMap_timeslotView] at unwound
    exact ⟨unwound.1.slot.masked, unwound.2⟩
  case both =>
    intro one two event concerned same
    obtain ⟨part, seen⟩ := Option.isSome_iff_exists.mp concerned
    obtain ⟨oneSlot, oneActions⟩ := Translator.step_seen dmr cfg one seen
    obtain ⟨twoSlot, twoActions⟩ := Translator.step_seen dmr cfg two seen
    have alike : AlikeResult (slotStep dmr cfg ts one.shared (one.slot ts) part).2
        (slotStep dmr cfg ts two.shared (two.slot ts) part).2 :=
      same.slot.slotStep same.oneWide same.twoWide (Event.atSlot_formed seen)
    rw [filterMap_timeslotView, filterMap_timeslotView]
    refine ⟨⟨?_, Translator.step_wide dmr cfg one event same.oneWide,
      Translator.step_wide dmr cfg two event same.twoWide⟩, ?_⟩
    · change Alike ((Translator.step dmr cfg one event).1.slot ts)
        ((Translator.step dmr cfg two event).1.slot ts)
      rw [oneSlot, twoSlot]
      exact alike.slot
    · change (slotActions ts (Translator.step dmr cfg one event).2).map _ =
        (slotActions ts (Translator.step dmr cfg two event).2).map _
      rw [oneActions, twoActions]
      exact alike.actions
  case left =>
    intro one two event elsewhere same
    obtain ⟨slot, actions⟩ := Translator.step_elsewhere dmr cfg ts one elsewhere
    rw [filterMap_timeslotView]
    refine ⟨⟨?_, Translator.step_wide dmr cfg one event same.oneWide, same.twoWide⟩, ?_⟩
    · exact (congrArg (Alike · (two.slot ts)) slot).mpr same.slot
    · exact congrArg (List.map Action.masked) actions
  case right =>
    intro one two event elsewhere same
    obtain ⟨slot, actions⟩ := Translator.step_elsewhere dmr cfg ts two elsewhere
    rw [filterMap_timeslotView]
    refine ⟨⟨?_, same.oneWide, Translator.step_wide dmr cfg two event same.twoWide⟩, ?_⟩
    · exact (congrArg (Alike (one.slot ts)) slot).mpr same.slot
    · exact congrArg (List.map Action.masked) actions

/-- A master's voice burst opens a call on timeslot 1. -/
def aloneRun : List Event :=
  [.hbpVoice true (masterVoice dmrCodec [1, 1, 1, 1] [0, 0, 7] [0, 0, 1] 0x10) rtpDraw fun _ => 100]

/-- The same after a call on timeslot 2. -/
def otherTimeslotRun : List Event :=
  .hbpVoice true (masterVoice dmrCodec [2, 2, 2, 2] [0, 0, 8] [0, 0, 2] 0x90) rtpDraw (fun _ => 99) ::
    aloneRun

theorem timeslots_isolated_other :
    let one := (translator dmrCodec {}).run Translator.initial aloneRun
    let two := (translator dmrCodec {}).run Translator.initial otherTimeslotRun
    (one.1.slot .ts1).tx.queue.length = 4 ∧ (one.1.slot .ts1).masked = (two.1.slot .ts1).masked := by
  have agree : aloneRun.filter (Event.concerns .ts1) = otherTimeslotRun.filter (Event.concerns .ts1) := by
    rw [otherTimeslotRun, List.filter_cons_of_neg (by decide +kernel)]
  exact ⟨by decide +kernel, (timeslots_isolated dmrCodec {} .ts1 aloneRun otherTimeslotRun agree).1⟩

/-- The packets that wait on timeslot 1 carry a stream byte that counts the calls of timeslot 2. -/
theorem waiting_packets_shared_other :
    aloneRun.filter (Event.concerns .ts1) = otherTimeslotRun.filter (Event.concerns .ts1) ∧
      { ((translator dmrCodec {}).run Translator.initial aloneRun).1.slot .ts1 with
          inCall.streamId := 0 } ≠
        { ((translator dmrCodec {}).run Translator.initial otherTimeslotRun).1.slot .ts1 with
          inCall.streamId := 0 } := by
  refine ⟨?_, fun same => ?_⟩
  · rw [otherTimeslotRun, List.filter_cons_of_neg (by decide +kernel)]
  · have bytes := congrArg (fun slot : Slot => slot.tx.queue.map fun entry => gvStream entry.packet) same
    revert bytes
    decide +kernel

end Ipsc2Hbp
