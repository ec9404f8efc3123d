import Ipsc2Hbp.Construction.Pacing
import Ipsc2Hbp.Proof.CallLock

namespace Ipsc2Hbp
open BigEndian

/-- Remembering a packet changes only the reflection tables. -/
theorem rememberHbpToIpsc_frame (cfg : Config) (srcSub dstGroup : Bytes) (now : Time) (slot : Slot) :
    ∃ reflect, rememberHbpToIpsc cfg srcSub dstGroup now slot = { slot with reflect := reflect } := by
  unfold rememberHbpToIpsc
  split
  case isTrue => exact ⟨slot.reflect, rfl⟩
  case isFalse =>
    simp only
    split
    case isTrue => exact ⟨slot.reflect, rfl⟩
    case isFalse => exact ⟨_, rfl⟩

/-- A drained queue touches at most the hang time of the lock. -/
theorem hbpIpscQueueDrained_frame (cfg : Config) (now : Time) (slot : Slot) :
    ∃ lockUntil, hbpIpscQueueDrained cfg now slot = { slot with lock.lockUntil := lockUntil } := by
  unfold hbpIpscQueueDrained
  split
  case isTrue => exact ⟨now + cfg.hang, rfl⟩
  case isFalse => exact ⟨slot.lock.lockUntil, rfl⟩

theorem hbpIpscQueueDrained_tx (cfg : Config) (now : Time) (slot : Slot) :
    (hbpIpscQueueDrained cfg now slot).tx = slot.tx := by
  obtain ⟨lockUntil, drained⟩ := hbpIpscQueueDrained_frame cfg now slot
  rw [drained]

/-- Scheduling touches at most the handle and the hang time of the lock. -/
theorem scheduleHbpToIpscDrain_frame (cfg : Config) (now : Time) (slot : Slot) :
    ∃ handle lockUntil, scheduleHbpToIpscDrain cfg now slot =
      { slot with tx.handle := handle, lock.lockUntil := lockUntil } := by
  unfold scheduleHbpToIpscDrain
  split
  case isTrue => exact ⟨slot.tx.handle, slot.lock.lockUntil, rfl⟩
  case isFalse =>
    split
    case isTrue =>
      obtain ⟨lockUntil, drained⟩ := hbpIpscQueueDrained_frame cfg now slot
      exact ⟨slot.tx.handle, lockUntil, drained⟩
    case isFalse =>
      simp only
      split
      case isTrue => exact ⟨_, slot.lock.lockUntil, rfl⟩
      case isFalse => exact ⟨_, slot.lock.lockUntil, rfl⟩

/-- The two ways in which a packet leaves: to the peer, or dropped at a busy slot. -/
inductive SendNow (cfg : Config) (entry : QueueEntry) (clock : Clock) (slot : Slot) :
    Slot → List Action → Prop
  | busy (occupied : isIpscSlotBusy cfg (clock 0) slot = true) :
      SendNow cfg entry clock slot slot [.slotBusy entry]
  | sent (reflect : Reflect) (idle : isIpscSlotBusy cfg (clock 0) slot = false) :
      SendNow cfg entry clock slot { slot with reflect := reflect } [.sendToPeer entry]

theorem sendHbpToIpscNow_cases (cfg : Config) (entry : QueueEntry) (clock : Clock) (slot : Slot) :
    SendNow cfg entry clock slot (sendHbpToIpscNow cfg entry clock slot).1
      (sendHbpToIpscNow cfg entry clock slot).2 := by
  unfold sendHbpToIpscNow
  cases occupied : isIpscSlotBusy cfg (clock 0) slot with
  | true => exact .busy occupied
  | false =>
      obtain ⟨reflect, remembered⟩ := rememberHbpToIpsc_frame cfg entry.srcSub entry.dstGroup
        (clock 1) slot
      simp only [Bool.false_eq_true, if_false, remembered]
      exact .sent reflect occupied

/-- The ways in which a generated packet is passed on. -/
inductive SendOutcome (cfg : Config) (entry : QueueEntry) (clock : Clock) (slot : Slot) :
    Slot → List Action → Prop
  | direct (after : Slot) (actions : List Action) (unpaced : cfg.hbpToIpscPacing = false)
      (sent : SendNow cfg entry clock slot after actions) :
      SendOutcome cfg entry clock slot after (.generate entry :: actions)
  | full (paced : cfg.hbpToIpscPacing = true) (crowded : cfg.queueLimit ≤ slot.tx.queue.length) :
      SendOutcome cfg entry clock slot slot [.generate entry, .queueFull entry]
  | queued (handle : Option DrainHandle) (paced : cfg.hbpToIpscPacing = true)
      (room : slot.tx.queue.length < cfg.queueLimit) (pending : handle.isSome = true) :
      SendOutcome cfg entry clock slot
        { slot with tx := { slot.tx with queue := slot.tx.queue ++ [entry], handle := handle } }
        [.generate entry]

/-- A waiting packet always gets a pending drain. -/
theorem scheduleHbpToIpscDrain_pending (cfg : Config) (now : Time) (slot : Slot)
    (unscheduled : slot.tx.handle = none) (waiting : slot.tx.queue ≠ []) :
    ∃ handle, scheduleHbpToIpscDrain cfg now slot = { slot with tx.handle := some handle } := by
  unfold scheduleHbpToIpscDrain
  rw [unscheduled, if_neg (by simp), if_neg (by simpa using waiting)]
  simp only
  split
  case isTrue => exact ⟨.callSoon, rfl⟩
  case isFalse => exact ⟨_, rfl⟩

theorem sendHbpToIpsc_cases (cfg : Config) (entry : QueueEntry) (clock : Clock) (slot : Slot) :
    SendOutcome cfg entry clock slot (sendHbpToIpsc cfg entry clock slot).1
      (sendHbpToIpsc cfg entry clock slot).2 := by
  unfold sendHbpToIpsc
  cases paced : cfg.hbpToIpscPacing with
  | false => exact .direct _ _ paced (sendHbpToIpscNow_cases cfg entry clock slot)
  | true =>
      by_cases crowded : cfg.queueLimit ≤ slot.tx.queue.length
      · simp only [Bool.not_true, Bool.false_eq_true, if_false, if_pos crowded]
        exact .full paced crowded
      · have room : slot.tx.queue.length < cfg.queueLimit := Nat.lt_of_not_le crowded
        simp only [Bool.not_true, Bool.false_eq_true, if_false, if_neg crowded]
        by_cases unscheduled : slot.tx.handle = none
        · obtain ⟨handle, scheduled⟩ := scheduleHbpToIpscDrain_pending cfg (clock 0)
            { slot with tx.queue := slot.tx.queue ++ [entry] } unscheduled (by simp)
          rw [if_pos (by simp [unscheduled]), scheduled]
          exact .queued (some handle) paced room rfl
        · rw [if_neg (by simpa using unscheduled)]
          exact .queued slot.tx.handle paced room (Option.isSome_iff_ne_none.mpr unscheduled)

/-- The three turns of a drain callback: an empty queue, the last packet, or one of several. -/
inductive DrainTurn (cfg : Config) (clock : Clock) (slot : Slot) : Slot → List Action → Prop
  | empty (after : Slot) (idle : slot.tx.queue = [])
      (drained : after = hbpIpscQueueDrained cfg (clock 0) { slot with tx.handle := none }) :
      DrainTurn cfg clock slot after []
  | last (entry : QueueEntry) (sent after : Slot) (actions : List Action)
      (single : slot.tx.queue = [entry])
      (passed : SendNow cfg entry clock { slot with tx := { slot.tx with queue := [], handle := none } }
        sent actions)
      (drained : after = hbpIpscQueueDrained cfg (clock 3)
        { sent with tx.nextAt := clock 2 + cfg.frameInterval }) :
      DrainTurn cfg clock slot after actions
  | more (entry next : QueueEntry) (rest : List QueueEntry) (sent : Slot) (actions : List Action)
      (handle : DrainHandle) (several : slot.tx.queue = entry :: next :: rest)
      (passed : SendNow cfg entry clock
        { slot with tx := { slot.tx with queue := next :: rest, handle := none } } sent actions) :
      DrainTurn cfg clock slot
        { sent with tx := { sent.tx with
          handle := some handle, nextAt := clock 2 + cfg.frameInterval } } actions

theorem SendNow.tx {cfg : Config} {entry : QueueEntry} {clock : Clock} {slot after : Slot}
    {actions : List Action} (sent : SendNow cfg entry clock slot after actions) :
    after.tx = slot.tx := by
  cases sent with
  | busy | sent => rfl

theorem drainHbpToIpscQueue_turn (cfg : Config) (clock : Clock) (slot : Slot) :
    DrainTurn cfg clock slot (drainHbpToIpscQueue cfg clock slot).1
      (drainHbpToIpscQueue cfg clock slot).2 := by
  unfold drainHbpToIpscQueue
  simp only
  split
  case h_1 idle => exact .empty _ idle rfl
  case h_2 entry rest first =>
    have passed := sendHbpToIpscNow_cases cfg entry clock
      { slot with tx := { slot.tx with queue := rest, handle := none } }
    revert passed
    generalize sendHbpToIpscNow cfg entry clock
      { slot with tx := { slot.tx with queue := rest, handle := none } } = sent
    intro passed
    rcases sent with ⟨sent, actions⟩
    have left : sent.tx.queue = rest := by rw [passed.tx]
    have cancelled : sent.tx.handle = none := by rw [passed.tx]
    cases rest with
    | nil =>
        rw [if_neg (by simp [left])]
        exact .last entry sent _ actions first passed rfl
    | cons next rest =>
        obtain ⟨handle, pending⟩ := scheduleHbpToIpscDrain_pending cfg (clock 3)
          { sent with tx.nextAt := clock 2 + cfg.frameInterval } cancelled (by simp [left])
        rw [if_pos (by simp [left]), pending]
        exact .more entry next rest sent actions handle first passed

/-- The ways in which a drain callback runs. -/
inductive DrainOutcome (cfg : Config) (clock : Clock) (slot : Slot) : Slot → List Action → Prop
  | empty (lockUntil : Time) (idle : slot.tx.queue = []) :
      DrainOutcome cfg clock slot
        { slot with tx.handle := none, lock.lockUntil := lockUntil } []
  | taken (entry : QueueEntry) (rest : List QueueEntry) (sent : Slot) (actions : List Action)
      (handle : Option DrainHandle) (nextAt lockUntil : Time)
      (first : slot.tx.queue = entry :: rest)
      (passed : SendNow cfg entry clock { slot with tx := { slot.tx with queue := rest, handle := none } }
        sent actions) :
      DrainOutcome cfg clock slot
        { sent with
          tx := { sent.tx with handle := handle, nextAt := nextAt }, lock.lockUntil := lockUntil }
        actions

theorem drainHbpToIpscQueue_cases (cfg : Config) (clock : Clock) (slot : Slot) :
    DrainOutcome cfg clock slot (drainHbpToIpscQueue cfg clock slot).1
      (drainHbpToIpscQueue cfg clock slot).2 := by
  have turn := drainHbpToIpscQueue_turn cfg clock slot
  generalize drainHbpToIpscQueue cfg clock slot = drained at turn
  rcases drained with ⟨after, actions⟩
  cases turn with
  | empty after idle drained =>
      obtain ⟨lockUntil, framed⟩ := hbpIpscQueueDrained_frame cfg (clock 0)
        { slot with tx.handle := none }
      rw [drained, framed]
      exact .empty lockUntil idle
  | last entry sent after actions single passed drained =>
      obtain ⟨lockUntil, framed⟩ := hbpIpscQueueDrained_frame cfg (clock 3)
        { sent with tx.nextAt := clock 2 + cfg.frameInterval }
      rw [drained, framed]
      exact .taken entry [] sent actions sent.tx.handle _ lockUntil single passed
  | more entry next rest sent actions handle several passed =>
      exact .taken entry (next :: rest) sent actions (some handle) _ sent.lock.lockUntil several passed

end Ipsc2Hbp
