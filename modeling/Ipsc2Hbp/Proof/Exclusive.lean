import Ipsc2Hbp.Construction.DmrCodec
import Ipsc2Hbp.Construction.Packets
import Ipsc2Hbp.Proof.SlotStep

namespace Ipsc2Hbp
open BigEndian

/-- Each active direction of the slot owns the call lock. -/
def Exclusive (slot : Slot) : Prop :=
  ∀ direction, directionActive slot direction = true → slot.lock.owner = some direction

/-- An owned lock leaves the other direction inactive. -/
theorem Exclusive.other_idle {slot : Slot} (exclusive : Exclusive slot) {direction : Direction}
    (owned : slot.lock.owner = some direction) : directionActive slot direction.other = false := by
  by_contra active
  have other := exclusive direction.other (by simpa using active)
  rw [owned] at other
  cases direction <;> simp [Direction.other] at other

/-- A lock that is free or over leaves both directions inactive. -/
theorem Exclusive.idle_of_free {slot : Slot} (exclusive : Exclusive slot) {now : Time}
    (free : slot.lock.owner = none ∨ callLockIsActive slot now = false) (direction : Direction) :
    directionActive slot direction = false := by
  by_contra active
  have owned := exclusive direction (by simpa using active)
  rcases free with unowned | lapsed
  · rw [unowned] at owned
    cases owned
  · rw [callLockIsActive_of_directionActive owned (by simpa using active)] at lapsed
    cases lapsed

/-- Calls that only end keep the law as long as the owner stays. -/
theorem Exclusive.shrink {before after : Slot} (exclusive : Exclusive before)
    (owner : after.lock.owner = before.lock.owner)
    (fewer : ∀ direction, directionActive after direction = true →
      directionActive before direction = true) : Exclusive after := by
  intro direction active
  rw [owner]
  exact exclusive direction (fewer direction active)

/-- The law holds when the other direction of the owner is inactive. -/
theorem Exclusive.of_owner {slot : Slot} {owner : Direction} (owned : slot.lock.owner = some owner)
    (idle : directionActive slot owner.other = false) : Exclusive slot := by
  intro direction active
  by_cases same : direction = owner
  · rw [owned, same]
  · rw [Direction.ne_iff_other.mp same, idle] at active
    cases active

theorem Exclusive.of_idle {slot : Slot}
    (idle : ∀ direction, directionActive slot direction = false) : Exclusive slot := by
  intro direction active
  rw [idle] at active
  cases active

theorem directionActive_lock (slot : Slot) (lock : CallLock) (direction : Direction) :
    directionActive { slot with lock := lock } direction = directionActive slot direction := by
  cases direction <;> rfl

theorem LockVerdict.blocked_hold {cfg : Config} {slot : Slot} {key : StreamKey} {dstGroup : Bytes}
    {now : Time} {lock : CallLock} (verdict : LockVerdict cfg slot key dstGroup now true lock) :
    lock.SameHold slot.lock := by
  cases verdict with
  | rejected lock same => exact same
  | collision lock same => exact same

/-- A packet that the lock of any talkgroup lets in owns it, against an inactive other direction. -/
theorem LockVerdict.admitted_owner {cfg : Config} {slot : Slot} {key : StreamKey} {dstGroup : Bytes}
    {now : Time} {lock : CallLock} (verdict : LockVerdict cfg slot key dstGroup now false lock)
    (enabled : cfg.ipscCallLock = true) (anyGroup : cfg.ipscCallLockSameTgOnly = false)
    (exclusive : Exclusive slot) :
    lock.owner = some key.direction ∧ directionActive slot key.direction.other = false := by
  cases verdict with
  | off disabled => rw [enabled] at disabled; cases disabled
  | acquired lock fresh free owner => exact ⟨owner, exclusive.idle_of_free free _⟩
  | continued lock fresh same owner => exact ⟨same.owner.trans owner, exclusive.other_idle owner⟩
  | otherGroup lock fresh same owner active sameTgOnly => rw [anyGroup] at sameTgOnly; cases sameTgOnly

/-- The outbound direction is active exactly when its stream is open. -/
theorem directionActive_ipsc (slot : Slot) :
    directionActive slot .ipsc = slot.outCall.streamId.isSome := rfl

/-- The inbound direction is active while a call is open or started, or a packet waits. -/
theorem directionActive_hbp (slot : Slot) :
    directionActive slot .hbp = true ↔
      slot.inCall.lc ≠ none ∨ slot.inCall.started = true ∨ slot.tx.queue ≠ [] := by
  simp [directionActive, Option.isSome_iff_ne_none, or_assoc]

/-- The inbound direction reads the inbound call and the queue. -/
theorem directionActive_hbp_congr {slot other : Slot} (inCall : slot.inCall = other.inCall)
    (tx : slot.tx = other.tx) : directionActive slot .hbp = directionActive other .hbp := by
  simp only [directionActive, inCall, tx]

theorem Exclusive.legacyPrelude {slot : Slot} (exclusive : Exclusive slot) (cfg : Config)
    (data : Bytes) (burstType : UInt8) (clock : Clock) :
    Exclusive (legacyPrelude cfg data burstType clock slot).2 := by
  obtain ⟨outCall, lockUntil, framed, streams⟩ := legacyPrelude_frame cfg data burstType clock slot
  rw [framed]
  refine exclusive.shrink rfl ?_
  intro direction active
  cases direction with
  | hbp => exact active
  | ipsc =>
      rw [directionActive_ipsc] at active ⊢
      rcases streams with closed | ⟨same, -⟩
      · rw [closed] at active
        cases active
      · rwa [same] at active

/-- An IPSC packet keeps the law. -/
theorem Exclusive.ipscVoiceReceived {slot : Slot} (exclusive : Exclusive slot) (dmr : DmrUtils)
    (cfg : Config) (enabled : cfg.ipscCallLock = true)
    (anyGroup : cfg.ipscCallLockSameTgOnly = false) (connected : Bool) (data : Bytes)
    (ts : Timeslot) (burstType : UInt8) (urandom : StreamId) (clock : Clock) (shared : Shared) :
    Exclusive (ipscVoiceReceived dmr cfg connected data ts burstType urandom clock shared slot).2.1 := by
  cases connected with
  | false => exact exclusive
  | true =>
      rw [ipscVoiceReceived_eq]
      have before := exclusive.legacyPrelude cfg data burstType clock
      have gate := ipscGate_cases cfg data burstType clock slot
      generalize Ipsc2Hbp.legacyPrelude cfg data burstType clock slot = prelude at before gate
      generalize ipscGate cfg data burstType clock slot = passed at gate
      rcases passed with ⟨dropped, after⟩
      cases gate with
      | stale => exact before
      | blocked lock verdict =>
          refine before.shrink verdict.blocked_hold.owner fun direction active => ?_
          rwa [directionActive_lock] at active
      | suppressed lock reflect verdict =>
          obtain ⟨owned, idle⟩ := verdict.admitted_owner enabled anyGroup before
          exact Exclusive.of_owner owned idle
      | admitted lock reflect verdict =>
          obtain ⟨owned, idle⟩ := verdict.admitted_owner enabled anyGroup before
          have side := (sendBurst_cases dmr cfg ts data burstType urandom (clock 5)
            (shared.learn data) { prelude.2 with
              lock := lock, reflect := reflect, ipscBusyLast := clock 4 }).side
          refine Exclusive.of_owner (side.owner.trans owned) ?_
          exact (directionActive_hbp_congr side.inCall side.tx).trans idle

/-- An HBP frame keeps the law. -/
theorem Exclusive.hbpFrameReceived {slot : Slot} (exclusive : Exclusive slot) (dmr : DmrUtils)
    (cfg : Config) (enabled : cfg.ipscCallLock = true)
    (anyGroup : cfg.ipscCallLockSameTgOnly = false) (frame : HbpFrame) (draw : RtpDraw)
    (clock : Clock) (shared : Shared) :
    Exclusive (hbpFrameReceived dmr cfg frame draw clock shared slot).2.1 := by
  obtain ⟨blocked, lock, verdict, received⟩ :=
    hbpFrameReceived_cases dmr cfg frame draw clock shared slot
  have before : Exclusive { slot with inCall.lastPkt := clock 0 } := exclusive
  rw [received]
  cases blocked with
  | true =>
      refine before.shrink verdict.blocked_hold.owner fun direction active => ?_
      exact (directionActive_lock _ lock direction).symm.trans active
  | false =>
      obtain ⟨owned, idle⟩ := verdict.admitted_owner enabled anyGroup before
      have side := (hbpAdmitted_cases dmr cfg frame draw clock shared
        { slot with inCall.lastPkt := clock 0, lock := lock }).side
      refine Exclusive.of_owner (side.owner.trans owned) ?_
      exact (congrArg (·.streamId.isSome) side.outCall).trans idle

/-- A drain only shortens the queue. -/
theorem Exclusive.drain {slot : Slot} (exclusive : Exclusive slot) (cfg : Config) (clock : Clock) :
    Exclusive (drainHbpToIpscQueue cfg clock slot).1 := by
  have outcome := drainHbpToIpscQueue_cases cfg clock slot
  refine exclusive.shrink outcome.side.owner ?_
  intro direction active
  cases direction with
  | ipsc => rwa [directionActive_ipsc, outcome.side.outCall] at active
  | hbp =>
      generalize drainHbpToIpscQueue cfg clock slot = drained at outcome active
      rcases drained with ⟨after, actions⟩
      cases outcome with
      | empty => exact active
      | taken entry rest sent actions handle nextAt lockUntil first passed =>
          simp [directionActive, first]

/-- A timeout only closes calls. -/
theorem Exclusive.checkCallTimeouts {slot : Slot} (exclusive : Exclusive slot) (cfg : Config)
    (timeout : Time) (clock : Clock) (ts : Timeslot) :
    Exclusive (checkCallTimeouts cfg timeout clock ts slot) := by
  have out : ∀ releaseAt, Exclusive (checkOutTimeout cfg timeout (clock 0) releaseAt slot) := by
    intro releaseAt
    unfold checkOutTimeout
    split
    case isTrue =>
      refine exclusive.shrink (releaseCallLock_owner ..) fun direction active => ?_
      cases direction with
      | ipsc => cases active
      | hbp => exact active
    case isFalse => exact exclusive
  have closed := out (clock (timeoutReading ts))
  unfold Ipsc2Hbp.checkCallTimeouts checkInTimeout
  split
  case isTrue =>
    refine closed.shrink (releaseCallLock_owner ..) fun direction active => ?_
    cases direction with
    | ipsc => exact active
    | hbp =>
        simp only [endHbpCall, resetHbpToIpscState, directionActive, Option.isSome_none,
          Bool.false_or] at active
        simp [directionActive, active]
  case isFalse => exact closed

/-- Clearing the calls of a slot makes both directions inactive. -/
theorem directionActive_disconnectSlot (slot : Slot) (direction : Direction) :
    directionActive (disconnectSlot slot) direction = false := by
  cases direction <;> rfl

/-- Every step of a slot keeps the law. -/
theorem Exclusive.slotStep {slot : Slot} (exclusive : Exclusive slot) (dmr : DmrUtils)
    (cfg : Config) (enabled : cfg.ipscCallLock = true)
    (anyGroup : cfg.ipscCallLockSameTgOnly = false) (ts : Timeslot) (shared : Shared)
    (part : SlotEvent) : Exclusive (slotStep dmr cfg ts shared slot part).2.1 := by
  cases part with
  | ipscVoice connected data burstType urandom clock =>
      exact exclusive.ipscVoiceReceived dmr cfg enabled anyGroup connected data ts burstType urandom
        clock shared
  | hbpFrame frame draw clock =>
      exact exclusive.hbpFrameReceived dmr cfg enabled anyGroup frame draw clock shared
  | drain clock => exact exclusive.drain cfg clock
  | checkCallTimeouts timeout clock => exact exclusive.checkCallTimeouts cfg timeout clock ts
  | peerLost => exact Exclusive.of_idle (directionActive_disconnectSlot slot)
  | hbpDisconnected => exact Exclusive.of_idle (directionActive_disconnectSlot slot)

/-- With the lock on for every talkgroup, the two directions of a timeslot are never active
together in any run, and an active direction owns the lock. -/
theorem directions_exclusive (dmr : DmrUtils) (cfg : Config) (enabled : cfg.ipscCallLock = true)
    (anyGroup : cfg.ipscCallLockSameTgOnly = false) (events : List Event) (ts : Timeslot) :
    let slot := ((translator dmr cfg).run Translator.initial events).1.slot ts
    (slot.outCall.streamId ≠ none →
      slot.inCall.lc = none ∧ slot.inCall.started = false ∧ slot.tx.queue = []) ∧
    (slot.outCall.streamId ≠ none → slot.lock.owner = some .ipsc) ∧
    (slot.inCall.lc ≠ none ∨ slot.inCall.started = true ∨ slot.tx.queue ≠ [] →
      slot.lock.owner = some .hbp) := by
  have exclusive := slot_run_always dmr cfg ts (fun _ slot => Exclusive slot)
    (fun _ shared _ part _ _ holds => holds.slotStep dmr cfg enabled anyGroup ts shared part)
    events (Exclusive.of_idle fun direction => by cases direction <;> rfl)
  intro slot
  have outOwner : slot.outCall.streamId ≠ none → slot.lock.owner = some .ipsc := fun opened =>
    exclusive .ipsc (Option.isSome_iff_ne_none.mpr opened)
  refine ⟨fun opened => ?_, outOwner, fun active => exclusive .hbp ((directionActive_hbp _).mpr active)⟩
  have idle : directionActive slot .hbp = false := exclusive.other_idle (outOwner opened)
  simpa [directionActive, and_assoc] using idle

/-- A repeater's header opens a stream; the master's header for another talkgroup is rejected. -/
def repeaterFirstRun : List Event :=
  [.ipscVoice true (peerHead dmrCodec 5 [0, 0, 9] [0, 0, 1]) .ts1 voiceHead firstDraw
      fun _ => 100,
    .hbpVoice true (masterHead dmrCodec [1, 1, 1, 1] [0, 0, 7] [0, 0, 2]) rtpDraw fun _ => 101]

theorem directions_exclusive_repeaterFirst :
    let cfg : Config := { ipscCallLockSameTgOnly := false }
    let slot := ((translator dmrCodec cfg).run Translator.initial repeaterFirstRun).1.slot .ts1
    slot.outCall.streamId = some [1, 2, 3, 4] ∧ slot.inCall.lc = none ∧
      slot.lock.owner = some .ipsc := by
  intro cfg slot
  have law := directions_exclusive dmrCodec cfg rfl rfl repeaterFirstRun .ts1
  have opened : slot.outCall.streamId = some [1, 2, 3, 4] := by decide +kernel
  have isOpen : slot.outCall.streamId ≠ none := by rw [opened]; simp
  exact ⟨opened, (law.1 isOpen).1, law.2.1 isOpen⟩

end Ipsc2Hbp
