import Ipsc2Hbp.Construction.EventLoop
import Ipsc2Hbp.Proof.CallRecords
import Mathlib.Tactic.Linarith

namespace Ipsc2Hbp
open BigEndian

/-- Scheduling writes the handle of the callback that it hands to the event loop. -/
theorem scheduleHbpToIpscDrain_callback (cfg : Config) (now : Time) (slot : Slot) :
    (scheduleHbpToIpscDrain cfg now slot).tx.handle.toList =
      slot.tx.handle.toList ++ (scheduledCallback now slot).toList := by
  unfold scheduleHbpToIpscDrain scheduledCallback
  cases pending : slot.tx.handle with
  | some handle => simp [pending]
  | none =>
      simp only [Option.isSome_none, Bool.false_eq_true, if_false]
      split
      case isTrue => simp [hbpIpscQueueDrained_tx, pending]
      case isFalse =>
        split
        · rfl
        · rfl

/-- Passing on a packet writes the handle of the callback that it hands to the event loop. -/
theorem sendHbpToIpsc_callback {cfg : Config} (paced : cfg.hbpToIpscPacing = true)
    (entry : QueueEntry) (clock : Clock) (slot : Slot) :
    (sendHbpToIpsc cfg entry clock slot).1.tx.handle.toList =
      slot.tx.handle.toList ++ (sendCallback cfg entry clock slot).toList := by
  unfold sendHbpToIpsc sendCallback
  simp only [paced, Bool.not_true, Bool.false_eq_true, if_false]
  split
  case isTrue => simp
  case isFalse =>
    split
    case isTrue => exact scheduleHbpToIpscDrain_callback ..
    case isFalse => simp

/-- A drain leaves the handle of the callback that it hands to the event loop. -/
theorem drainHbpToIpscQueue_callback (cfg : Config) (clock : Clock) (slot : Slot) :
    (drainHbpToIpscQueue cfg clock slot).1.tx.handle.toList =
      (drainCallback cfg clock slot).toList := by
  unfold drainHbpToIpscQueue drainCallback
  cases first : slot.tx.queue with
  | nil =>
      simp only [first, hbpIpscQueueDrained_tx]
  | cons entry rest =>
      have passed := sendHbpToIpscNow_cases cfg entry clock
        { slot with tx := { slot.tx with queue := rest, handle := none } }
      revert passed
      simp only [first]
      generalize sendHbpToIpscNow cfg entry clock
        { slot with tx := { slot.tx with queue := rest, handle := none } } = sent
      intro passed
      have cancelled : sent.1.tx.handle = none := by rw [passed.tx]
      split
      case isTrue =>
        rw [scheduleHbpToIpscDrain_callback]
        simp [cancelled]
      case isFalse =>
        rw [hbpIpscQueueDrained_tx]
        simp [cancelled]

/-- A drain takes the first packet out of the queue. -/
theorem drainHbpToIpscQueue_takes (cfg : Config) (clock : Clock) (slot : Slot) :
    slot.tx.queue = takenEntries (drainHbpToIpscQueue cfg clock slot).2 ++
      (drainHbpToIpscQueue cfg clock slot).1.tx.queue := by
  have outcome := drainHbpToIpscQueue_cases cfg clock slot
  generalize drainHbpToIpscQueue cfg clock slot = drained at outcome
  rcases drained with ⟨after, actions⟩
  cases outcome with
  | empty lockUntil idle =>
      change slot.tx.queue = [] ++ slot.tx.queue
      rfl
  | taken entry rest sent actions handle nextAt lockUntil first passed =>
      have left : sent.tx.queue = rest := by rw [passed.tx]
      change slot.tx.queue = _ ++ sent.tx.queue
      rw [first, left]
      cases passed with
      | busy | sent => rfl

/-- The event loop runs only callbacks that it holds. -/
def TxEvent.Fires (paced : PacedSlot) : TxEvent → Prop
  | .drain callback _ => callback ∈ paced.callbacks
  | .send .. | .clear | .other _ => True

/-- A pending callback is the only one. -/
theorem PacedSlot.only_callback {paced : PacedSlot}
    (held : paced.callbacks = paced.slot.tx.handle.toList) {callback : DrainHandle}
    (pending : callback ∈ paced.callbacks) : paced.callbacks = [callback] := by
  rw [held, Option.mem_toList] at pending
  rw [held, pending]
  rfl

/-- The event loop goes on to hold the handle's callback alone. -/
theorem PacedSlot.step_callbacks {cfg : Config} (enabled : cfg.hbpToIpscPacing = true)
    {paced : PacedSlot} (held : paced.callbacks = paced.slot.tx.handle.toList) {event : TxEvent}
    (fires : event.Fires paced) :
    (paced.step cfg event).1.callbacks = (paced.step cfg event).1.slot.tx.handle.toList := by
  cases event with
  | send entry clock =>
      change paced.callbacks ++ _ = (sendHbpToIpsc cfg entry clock paced.slot).1.tx.handle.toList
      rw [sendHbpToIpsc_callback enabled, held]
  | drain callback clock =>
      change paced.callbacks.erase callback ++ _ = _
      rw [PacedSlot.only_callback held fires, List.erase_cons_head, List.nil_append]
      exact (drainHbpToIpscQueue_callback cfg clock paced.slot).symm
  | clear =>
      simp only [PacedSlot.step, held]
      cases paced.slot.tx.handle with
      | none => rfl
      | some handle => simp [clearIpscTxQueue]
  | other slot => exact held

/-- What has been taken out and what still waits is what was accepted, the queue keeps its limit,
and the event loop holds the handle's callback alone, exactly while a packet waits. -/
structure PacedSlot.Exact (cfg : Config) (paced : PacedSlot) (history : TxHistory) : Prop where
  order : history.taken ++ paced.slot.tx.queue = history.accepted
  bounded : paced.slot.tx.queue.length ≤ cfg.queueLimit
  callbacks : paced.callbacks = paced.slot.tx.handle.toList
  scheduled : paced.slot.tx.Scheduled

/-- Passing on a packet keeps the accounts. -/
theorem PacedSlot.Exact.send {cfg : Config} (enabled : cfg.hbpToIpscPacing = true)
    {paced : PacedSlot} {history : TxHistory} (exact : paced.Exact cfg history) (entry : QueueEntry)
    (clock : Clock) :
    (paced.step cfg (.send entry clock)).1.Exact cfg
      (history.record cfg paced (.send entry clock)) := by
  have outcome := sendHbpToIpsc_cases cfg entry clock paced.slot
  have scheduled := outcome.scheduled exact.scheduled
  refine ⟨?_, ?_, PacedSlot.step_callbacks enabled exact.callbacks trivial, scheduled⟩
  · change _ ++ (sendHbpToIpsc cfg entry clock paced.slot).1.tx.queue = _
    simp only [TxHistory.record]
    generalize (sendHbpToIpsc cfg entry clock paced.slot).2 = actions at outcome
    generalize (sendHbpToIpsc cfg entry clock paced.slot).1 = after at outcome ⊢
    cases outcome with
    | direct after actions unpaced => exact absurd (unpaced.symm.trans enabled) Bool.false_ne_true
    | full paced crowded =>
        rw [if_pos crowded]
        exact exact.order
    | queued handle paced room =>
        rw [if_neg (Nat.not_le_of_lt room)]
        simp only [← List.append_assoc, exact.order]
  · change (sendHbpToIpsc cfg entry clock paced.slot).1.tx.queue.length ≤ _
    generalize (sendHbpToIpsc cfg entry clock paced.slot).2 = actions at outcome
    generalize (sendHbpToIpsc cfg entry clock paced.slot).1 = after at outcome ⊢
    cases outcome with
    | direct after actions unpaced => exact absurd (unpaced.symm.trans enabled) Bool.false_ne_true
    | full => exact exact.bounded
    | queued handle paced room =>
        rw [List.length_append]
        exact room

/-- A drain of a pending callback keeps the accounts. -/
theorem PacedSlot.Exact.drain {cfg : Config} (enabled : cfg.hbpToIpscPacing = true)
    {paced : PacedSlot} {history : TxHistory} (exact : paced.Exact cfg history)
    {callback : DrainHandle} (clock : Clock) (pending : callback ∈ paced.callbacks) :
    (paced.step cfg (.drain callback clock)).1.Exact cfg
      (history.record cfg paced (.drain callback clock)) := by
  have takes := drainHbpToIpscQueue_takes cfg clock paced.slot
  refine ⟨?_, ?_, PacedSlot.step_callbacks enabled exact.callbacks pending,
    drainHbpToIpscQueue_scheduled cfg clock paced.slot⟩
  · change (history.taken ++ takenEntries (drainHbpToIpscQueue cfg clock paced.slot).2) ++
      (drainHbpToIpscQueue cfg clock paced.slot).1.tx.queue = history.accepted
    rw [List.append_assoc, ← takes]
    exact exact.order
  · have shorter := congrArg List.length takes
    rw [List.length_append] at shorter
    have before := exact.bounded
    change (drainHbpToIpscQueue cfg clock paced.slot).1.tx.queue.length ≤ cfg.queueLimit
    omega

/-- A reset empties the accounts and cancels the pending callback. -/
theorem PacedSlot.Exact.clear {cfg : Config} (enabled : cfg.hbpToIpscPacing = true)
    {paced : PacedSlot} {history : TxHistory} (exact : paced.Exact cfg history) :
    (paced.step cfg .clear).1.Exact cfg (history.record cfg paced .clear) := by
  refine ⟨rfl, Nat.zero_le _, PacedSlot.step_callbacks enabled exact.callbacks trivial, ?_⟩
  exact iff_of_false (fun absurd => absurd rfl) (fun waits => waits rfl)

/-- Every event that may happen keeps the accounts. -/
theorem PacedSlot.Exact.step {cfg : Config} (enabled : cfg.hbpToIpscPacing = true)
    {paced : PacedSlot} {history : TxHistory} (exact : paced.Exact cfg history) {event : TxEvent}
    (fires : event.Fires paced) :
    (paced.step cfg event).1.Exact cfg (history.record cfg paced event) := by
  cases event with
  | send entry clock => exact exact.send enabled entry clock
  | drain callback clock => exact exact.drain enabled clock fires
  | clear => exact exact.clear enabled
  | other slot => exact ⟨exact.order, exact.bounded, exact.callbacks, exact.scheduled⟩

/-- The accounts hold after every run. -/
theorem pacer_exact {cfg : Config} (enabled : cfg.hbpToIpscPacing = true) (events : List TxEvent)
    (fires : (pacer cfg).Meets (fun _ paced event => event.Fires paced) [] {} events) :
    let final := (((pacer cfg).ghost (TxHistory.record cfg)).run ({}, {}) events).1
    final.1.Exact cfg final.2 := by
  refine ((pacer cfg).ghost (TxHistory.record cfg)).run_log_invariant
    (fun _ state event => event.Fires state.1) (fun _ state => state.1.Exact cfg state.2) ?_ []
    ({}, {}) events ?_ ?_
  · intro log state event fires exact
    exact exact.step enabled fires
  · rw [Mealy.ghost_meets]
    exact fires
  · exact ⟨rfl, Nat.zero_le _, rfl, iff_of_false (fun absurd => absurd rfl) (fun waits => waits rfl)⟩

/-- With pacing on, in every run of packets passed on, drains and resets on a timeslot: the packets
taken out since the last reset and then those still waiting are the accepted ones in order, the
queue never exceeds its limit, and one drain callback is pending exactly while a packet waits. -/
theorem pacing_queue_exact {cfg : Config} (enabled : cfg.hbpToIpscPacing = true)
    (events : List TxEvent)
    (fires : (pacer cfg).Meets (fun _ paced event => event.Fires paced) [] {} events) :
    let final := (((pacer cfg).ghost (TxHistory.record cfg)).run ({}, {}) events).1
    final.2.taken ++ final.1.slot.tx.queue = final.2.accepted ∧
      final.1.slot.tx.queue.length ≤ cfg.queueLimit ∧
      (final.1.slot.tx.queue ≠ [] → final.1.callbacks.length = 1) ∧
      (final.1.slot.tx.queue = [] → final.1.callbacks = []) := by
  intro final
  have exact : final.1.Exact cfg final.2 := pacer_exact enabled events fires
  refine ⟨exact.order, exact.bounded, fun waits => ?_, fun idle => ?_⟩
  · obtain ⟨handle, pending⟩ := Option.ne_none_iff_exists'.mp (exact.scheduled.mpr waits)
    rw [exact.callbacks, pending]
    rfl
  · have unscheduled : final.1.slot.tx.handle = none := by
      by_contra pending
      exact exact.scheduled.mp pending idle
    rw [exact.callbacks, unscheduled]
    rfl

/-- A packet waits and is sent, another one is dropped by a reset. -/
def resetRun (first second : QueueEntry) : List TxEvent :=
  [.send first fun _ => 100, .drain .callSoon fun _ => 100, .send second fun _ => 100, .clear,
    .send first fun _ => 101]

/-- A queue entry with the given packet. -/
def shortEntry (packet : Bytes) : QueueEntry := ⟨packet, [0, 0, 7], [0, 0, 2], slot1Voice, 1⟩

/-- After the reset the packet passed on last is the only one that counts. -/
theorem pacing_queue_exact_reset :
    let final := (((pacer {}).ghost (TxHistory.record {})).run ({}, {})
      (resetRun (shortEntry [1]) (shortEntry [2]))).1
    final.2.accepted = [shortEntry [1]] ∧
      final.2.taken ++ final.1.slot.tx.queue = final.2.accepted := by
  intro final
  have fires : (pacer {}).Meets (fun _ paced event => event.Fires paced) [] {}
      (resetRun (shortEntry [1]) (shortEntry [2])) := by
    refine ⟨trivial, ?_, trivial, trivial, trivial, trivial⟩
    change DrainHandle.callSoon ∈ _
    decide +kernel
  exact ⟨by decide +kernel, (pacing_queue_exact rfl _ fires).1⟩

/-- The clock readings of an event. -/
def TxEvent.clock : TxEvent → Option Clock
  | .send _ clock => some clock
  | .drain _ clock => some clock
  | .clear | .other _ => none

/-- The number of readings that an event takes. -/
def TxEvent.readings : TxEvent → Nat
  | .send .. => 2
  | .drain .. => 4
  | .clear | .other _ => 0

/-- The clock never goes back, neither in an event nor from one event to a later one. -/
structure TxForward (events : List TxEvent) : Prop where
  inside : ∀ event ∈ events, ∀ clock ∈ event.clock, Monotone clock
  between : events.Pairwise fun first second => ∀ one ∈ first.clock, ∀ two ∈ second.clock,
    ∀ early < first.readings, ∀ late, one early ≤ two late

/-- `call_later` never fires early. -/
def TxEvent.OnTime : TxEvent → Prop
  | .drain (.callLater due) clock => due ≤ clock 0
  | .drain .callSoon _ | .send .. | .clear | .other _ => True

/-- A pending callback runs at the earliest from the given time on. -/
def DrainHandle.Waits (start : Time) (rest : List TxEvent) : DrainHandle → Prop
  | .callSoon => ∀ event ∈ rest, ∀ clock ∈ event.clock, ∀ reading, start ≤ clock reading
  | .callLater due => start ≤ due

/-- A scheduled callback waits for the next send time, but for the tolerance. -/
theorem scheduledCallback_waits {now start : Time} {slot : Slot} {callback : DrainHandle}
    (scheduled : scheduledCallback now slot = some callback) (cools : start ≤ slot.tx.nextAt)
    {rest : List TxEvent}
    (ahead : ∀ event ∈ rest, ∀ clock ∈ event.clock, ∀ reading, now ≤ clock reading) :
    callback.Waits (start - 1 / 1000) rest := by
  unfold scheduledCallback at scheduled
  split at scheduled
  case isTrue => cases scheduled
  case isFalse =>
    split at scheduled
    case isTrue => cases scheduled
    case isFalse =>
      simp only at scheduled
      have delay : slot.tx.nextAt - now ≤ max 0 (slot.tx.nextAt - now) := le_max_right _ _
      split at scheduled
      case isTrue short =>
        obtain rfl := Option.some.inj scheduled
        intro event member clock read reading
        have after := ahead event member clock read reading
        linarith
      case isFalse =>
        obtain rfl := Option.some.inj scheduled
        change start - 1 / 1000 ≤ now + max 0 (slot.tx.nextAt - now)
        linarith

/-- Until the given time nothing is taken out, but for the tolerance. -/
structure PacedSlot.Cools (start : Time) (rest : List TxEvent) (paced : PacedSlot) : Prop where
  nextAt : start ≤ paced.slot.tx.nextAt
  callbacks : ∀ callback ∈ paced.callbacks, callback.Waits (start - 1 / 1000) rest

/-- A drain sets the next send time when it takes a packet. -/
theorem drainHbpToIpscQueue_nextAt (cfg : Config) (clock : Clock) (slot : Slot) :
    (slot.tx.queue = [] ∧ (drainHbpToIpscQueue cfg clock slot).1.tx.nextAt = slot.tx.nextAt) ∨
      (drainHbpToIpscQueue cfg clock slot).1.tx.nextAt = clock 2 + cfg.frameInterval := by
  have turn := drainHbpToIpscQueue_turn cfg clock slot
  generalize drainHbpToIpscQueue cfg clock slot = drained at turn
  rcases drained with ⟨after, actions⟩
  cases turn with
  | empty after idle drained =>
      left
      refine ⟨idle, ?_⟩
      rw [drained, hbpIpscQueueDrained_tx]
  | last entry sent after actions single passed drained =>
      right
      rw [drained, hbpIpscQueueDrained_tx]
  | more => exact .inr rfl

/-- The callback of a drain is scheduled after the next send time is set. -/
theorem drainCallback_scheduled {cfg : Config} {clock : Clock} {slot : Slot}
    {callback : DrainHandle} (handed : drainCallback cfg clock slot = some callback) :
    ∃ after : Slot, after.tx.nextAt = clock 2 + cfg.frameInterval ∧
      scheduledCallback (clock 3) after = some callback := by
  unfold drainCallback at handed
  simp only at handed
  split at handed
  case h_1 => cases handed
  case h_2 =>
    split at handed
    case isTrue => exact ⟨_, rfl, handed⟩
    case isFalse => cases handed

/-- The callback of a send is scheduled with the next send time that the timeslot has. -/
theorem sendCallback_scheduled {cfg : Config} {entry : QueueEntry} {clock : Clock} {slot : Slot}
    {callback : DrainHandle} (handed : sendCallback cfg entry clock slot = some callback) :
    ∃ after : Slot, after.tx.nextAt = slot.tx.nextAt ∧
      scheduledCallback (clock 0) after = some callback := by
  unfold sendCallback at handed
  split at handed
  case isTrue => cases handed
  case isFalse =>
    split at handed
    case isTrue => cases handed
    case isFalse =>
      simp only at handed
      split at handed
      case isTrue =>
        exact ⟨{ slot with tx.queue := slot.tx.queue ++ [entry] }, rfl, handed⟩
      case isFalse => cases handed

/-- Passing on a packet keeps the next send time. -/
theorem sendHbpToIpsc_nextAt (cfg : Config) (entry : QueueEntry) (clock : Clock) (slot : Slot) :
    (sendHbpToIpsc cfg entry clock slot).1.tx.nextAt = slot.tx.nextAt := by
  have outcome := sendHbpToIpsc_cases cfg entry clock slot
  generalize sendHbpToIpsc cfg entry clock slot = result at outcome
  rcases result with ⟨after, actions⟩
  cases outcome with
  | direct after actions unpaced sent => rw [sent.tx]
  | full | queued => rfl

/-- A waiting callback still waits when an event has passed. -/
theorem DrainHandle.Waits.tail {start : Time} {event : TxEvent} {rest : List TxEvent}
    {callback : DrainHandle} (waits : callback.Waits start (event :: rest)) :
    callback.Waits start rest := by
  cases callback with
  | callSoon => exact fun other member => waits other (List.mem_cons_of_mem _ member)
  | callLater due => exact waits

/-- A drain that takes a packet starts the cooldown. -/
theorem PacedSlot.Cools.start {cfg : Config} {paced : PacedSlot} {callback : DrainHandle}
    {clock : Clock} {rest : List TxEvent} (only : paced.callbacks = [callback])
    (took : takenEntries (paced.step cfg (.drain callback clock)).2 ≠ [])
    (ahead : ∀ event ∈ rest, ∀ two ∈ event.clock, ∀ early < 4, ∀ late, clock early ≤ two late) :
    (paced.step cfg (.drain callback clock)).1.Cools (clock 2 + cfg.frameInterval) rest := by
  constructor
  · rcases drainHbpToIpscQueue_nextAt cfg clock paced.slot with ⟨idle, -⟩ | now
    · have takes := drainHbpToIpscQueue_takes cfg clock paced.slot
      rw [idle] at takes
      exact absurd (List.append_eq_nil_iff.mp takes.symm).1 took
    · exact now.ge
  · intro scheduled member
    rcases List.mem_append.mp member with old | handed
    · -- the callback that has run was the only one
      rw [only, List.erase_cons_head] at old
      cases old
    · obtain ⟨after, now, handed⟩ := drainCallback_scheduled (Option.mem_toList.mp handed)
      apply scheduledCallback_waits handed now.ge
      exact fun event later two read => ahead event later two read 3 (show 3 < 4 by decide)

/-- An event after the last send keeps the cooldown. -/
theorem PacedSlot.Cools.step {cfg : Config} {sent : Time} {event : TxEvent} {rest : List TxEvent}
    {paced : PacedSlot} (cools : paced.Cools (sent + cfg.frameInterval) (event :: rest))
    (kept : event ≠ .clear) (late : ∀ clock ∈ event.clock, ∀ reading, sent ≤ clock reading)
    (ahead : ∀ other ∈ rest, ∀ one ∈ event.clock, ∀ two ∈ other.clock, ∀ early < event.readings,
      ∀ late, one early ≤ two late) :
    (paced.step cfg event).1.Cools (sent + cfg.frameInterval) rest := by
  have before : ∀ callback ∈ paced.callbacks,
      callback.Waits (sent + cfg.frameInterval - 1 / 1000) rest := fun callback member =>
    (cools.callbacks callback member).tail
  cases event with
  | clear => exact absurd rfl kept
  | other slot => exact ⟨cools.nextAt, before⟩
  | send entry clock =>
      constructor
      · exact cools.nextAt.trans_eq (sendHbpToIpsc_nextAt ..).symm
      · intro callback member
        rcases List.mem_append.mp member with old | handed
        · exact before callback old
        · obtain ⟨after, same, scheduled⟩ := sendCallback_scheduled (Option.mem_toList.mp handed)
          apply scheduledCallback_waits scheduled
          · rw [same]
            exact cools.nextAt
          · intro other later two read
            exact ahead other later clock rfl two read 0 (show 0 < 2 by decide)
  | drain fired clock =>
      have set : sent + cfg.frameInterval ≤ clock 2 + cfg.frameInterval := by
        have second := late clock rfl 2
        linarith
      constructor
      · rcases drainHbpToIpscQueue_nextAt cfg clock paced.slot with ⟨-, same⟩ | now
        · exact cools.nextAt.trans_eq same.symm
        · exact set.trans_eq now.symm
      · intro callback member
        rcases List.mem_append.mp member with old | handed
        · exact before callback (List.mem_of_mem_erase old)
        · obtain ⟨after, now, scheduled⟩ := drainCallback_scheduled (Option.mem_toList.mp handed)
          apply scheduledCallback_waits scheduled
          · rw [now]
            exact set
          · intro other later two read
            exact ahead other later clock rfl two read 3 (show 3 < 4 by decide)

/-- A run after the last send keeps the cooldown. -/
theorem PacedSlot.Cools.run {cfg : Config} {sent : Time} {middle rest : List TxEvent}
    (kept : .clear ∉ middle)
    (late : ∀ event ∈ middle, ∀ clock ∈ event.clock, ∀ reading, sent ≤ clock reading)
    (forward : TxForward (middle ++ rest)) {paced : PacedSlot}
    (cools : paced.Cools (sent + cfg.frameInterval) (middle ++ rest)) :
    ((pacer cfg).run paced middle).1.Cools (sent + cfg.frameInterval) rest := by
  induction middle generalizing paced with
  | nil => exact cools
  | cons event middle ih =>
      obtain ⟨first, between⟩ := List.pairwise_cons.mp forward.between
      obtain ⟨now, later⟩ := List.forall_mem_cons.mp late
      apply ih (fun member => kept (List.mem_cons_of_mem _ member)) later
      · exact ⟨fun other member => forward.inside other (List.mem_cons_of_mem _ member), between⟩
      · apply cools.step (fun same => kept (by rw [same]; exact List.mem_cons_self)) now
        exact fun other member one read => first other member one read

/-- With pacing on, a clock that never goes back and callbacks that never run early, a packet is
taken out at least the frame interval after the one before, but for the tolerance of one
millisecond, in every run without a reset in between. -/
theorem pacing_cadence {cfg : Config} (enabled : cfg.hbpToIpscPacing = true)
    (before middle : List TxEvent) {callback next : DrainHandle} {clock other : Clock}
    (fires : (pacer cfg).Meets (fun _ paced event => event.Fires paced ∧ event.OnTime) [] {}
      (before ++ .drain callback clock :: (middle ++ [.drain next other])))
    (forward : TxForward (before ++ .drain callback clock :: (middle ++ [.drain next other])))
    (kept : .clear ∉ middle)
    (took : takenEntries (PacedSlot.step cfg ((pacer cfg).run {} before).1
      (.drain callback clock)).2 ≠ []) :
    ∀ early ≤ 2, ∀ late, clock early + cfg.frameInterval - 1 / 1000 ≤ other late := by
  intro early inside late
  rw [Mealy.meets_append, Mealy.meets_cons, Mealy.meets_append] at fires
  obtain ⟨earlier, ⟨pending, -⟩, -, ⟨nextPending, onTime⟩, -⟩ := fires
  have accounts := pacer_exact enabled before (earlier.imp fun _ _ _ both => both.1)
  simp only [Mealy.ghost_run] at accounts
  obtain ⟨-, drains, -⟩ := List.pairwise_append.mp forward.between
  obtain ⟨ahead, between⟩ := List.pairwise_cons.mp drains
  have forwardRest : TxForward (middle ++ [.drain next other]) :=
    ⟨fun event member => forward.inside event
      (List.mem_append_right _ (List.mem_cons_of_mem _ member)), between⟩
  have sent : ∀ event ∈ middle ++ [.drain next other], ∀ two ∈ event.clock, ∀ reading,
      clock 2 ≤ two reading := fun event member two read =>
    ahead event member clock rfl two read 2 (show 2 < 4 by decide)
  have only := PacedSlot.only_callback accounts.callbacks pending
  have start := PacedSlot.Cools.start only took fun event member => ahead event member clock rfl
  have cools := start.run kept (fun event member => sent event (List.mem_append_left _ member))
    forwardRest
  have waits := cools.callbacks next nextPending
  have monotone : Monotone other := forward.inside (.drain next other) (by simp) other rfl
  have own : Monotone clock := forward.inside (.drain callback clock) (by simp) clock rfl
  have first : clock early ≤ clock 2 := own inside
  cases next with
  | callSoon =>
      have reached := waits (.drain .callSoon other) (List.mem_singleton_self _) other rfl late
      linarith
  | callLater due =>
      have reached : clock 2 + cfg.frameInterval - 1 / 1000 ≤ due := waits
      have fired : due ≤ other 0 := onTime
      have last : other 0 ≤ other late := monotone (Nat.zero_le late)
      linarith

/-- The queue runs empty, and the next packet still waits for its turn. -/
theorem pacing_cadence_empty : (100 : Time) + Config.frameInterval {} - 1 / 1000 ≤ 101 := by
  have fires : (pacer {}).Meets (fun _ paced event => event.Fires paced ∧ event.OnTime) [] {}
      ([.send (shortEntry [1]) fun _ => 100] ++ .drain .callSoon (fun _ => 100) ::
        ([.send (shortEntry [2]) fun _ => 100] ++
          [.drain (.callLater (100 + 60 / 1000)) fun _ => 101])) := by
    refine ⟨⟨trivial, trivial⟩, ⟨?_, trivial⟩, ⟨trivial, trivial⟩, ⟨?_, ?_⟩, trivial⟩
    · change DrainHandle.callSoon ∈ _
      decide +kernel
    · change DrainHandle.callLater (100 + 60 / 1000) ∈ _
      decide +kernel
    · change (100 + 60 / 1000 : Time) ≤ 101
      norm_num
  have forward : TxForward ([.send (shortEntry [1]) fun _ => 100] ++
      .drain .callSoon (fun _ => 100) :: ([.send (shortEntry [2]) fun _ => 100] ++
        [.drain (.callLater (100 + 60 / 1000)) fun _ => 101])) := by
    constructor
    · simp [TxEvent.clock, monotone_const]
    · simp [TxEvent.clock]
      norm_num
  exact pacing_cadence rfl _ _ fires forward (by simp) (by decide +kernel) 2 le_rfl 0

end Ipsc2Hbp
