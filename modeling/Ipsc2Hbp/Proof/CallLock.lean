import Ipsc2Hbp.Construction.Translator

namespace Ipsc2Hbp
open BigEndian

def Direction.other : Direction → Direction
  | .ipsc => .hbp
  | .hbp => .ipsc

theorem Direction.ne_iff_other {left right : Direction} : left ≠ right ↔ left = right.other := by
  cases left <;> cases right <;> simp [other]

theorem Direction.ne_other (direction : Direction) : direction ≠ direction.other := by
  cases direction <;> decide

/-- Two locks record the same owner, call and hang time; the rejected streams may differ. -/
structure CallLock.SameHold (lock old : CallLock) : Prop where
  owner : lock.owner = old.owner
  src : lock.src = old.src
  tg : lock.tg = old.tg
  lockUntil : lock.lockUntil = old.lockUntil

theorem CallLock.SameHold.refl (lock : CallLock) : lock.SameHold lock := ⟨rfl, rfl, rfl, rfl⟩

theorem CallLock.SameHold.trans {first second third : CallLock} (one : first.SameHold second)
    (two : second.SameHold third) : first.SameHold third :=
  ⟨one.owner.trans two.owner, one.src.trans two.src, one.tg.trans two.tg,
    one.lockUntil.trans two.lockUntil⟩

theorem CallLock.prune_hold (lock : CallLock) (now : Time) : (lock.prune now).SameHold lock :=
  ⟨rfl, rfl, rfl, rfl⟩

theorem CallLock.setBlocked_hold (lock : CallLock) (key : StreamKey) (expiry : Option Time) :
    (lock.setBlocked key expiry).SameHold lock := by
  rcases key with (_ | streamByte) | stream <;> exact ⟨rfl, rfl, rfl, rfl⟩

/-- The activity test reads only the owner and the hang time of the lock. -/
theorem callLockIsActive_hold {slot : Slot} {lock : CallLock} (same : lock.SameHold slot.lock)
    (now : Time) : callLockIsActive { slot with lock := lock } now = callLockIsActive slot now := by
  unfold callLockIsActive
  rw [same.owner, same.lockUntil]
  rfl

/-- An owner with an open call keeps the lock active. -/
theorem callLockIsActive_of_directionActive {slot : Slot} {owner : Direction}
    (owned : slot.lock.owner = some owner) (active : directionActive slot owner = true) (now : Time) :
    callLockIsActive slot now = true := by
  simp [callLockIsActive, owned, active]

/-- The six ways in which the lock answers a packet, each with the lock that it leaves. -/
inductive LockVerdict (cfg : Config) (slot : Slot) (key : StreamKey) (dstGroup : Bytes) (now : Time) :
    Bool → CallLock → Prop
  | off (disabled : cfg.ipscCallLock = false) : LockVerdict cfg slot key dstGroup now false slot.lock
  | rejected (lock : CallLock) (same : lock.SameHold slot.lock)
      (known : ((slot.lock.prune now).blocked key).isSome = true) :
      LockVerdict cfg slot key dstGroup now true lock
  | acquired (lock : CallLock) (fresh : ((slot.lock.prune now).blocked key).isSome = false)
      (free : slot.lock.owner = none ∨ callLockIsActive slot now = false)
      (owner : lock.owner = some key.direction) (tg : lock.tg = some dstGroup) :
      LockVerdict cfg slot key dstGroup now false lock
  | continued (lock : CallLock) (fresh : ((slot.lock.prune now).blocked key).isSome = false)
      (same : lock.SameHold slot.lock)
      (owner : slot.lock.owner = some key.direction) (active : callLockIsActive slot now = true) :
      LockVerdict cfg slot key dstGroup now false lock
  | otherGroup (lock : CallLock) (fresh : ((slot.lock.prune now).blocked key).isSome = false)
      (same : lock.SameHold slot.lock)
      (owner : slot.lock.owner = some key.direction.other)
      (active : callLockIsActive slot now = true) (sameTgOnly : cfg.ipscCallLockSameTgOnly = true)
      (differs : slot.lock.tg ≠ some dstGroup) : LockVerdict cfg slot key dstGroup now false lock
  | collision (lock : CallLock) (same : lock.SameHold slot.lock)
      (owner : slot.lock.owner = some key.direction.other)
      (active : callLockIsActive slot now = true)
      (matching : cfg.ipscCallLockSameTgOnly = true → slot.lock.tg = some dstGroup) :
      LockVerdict cfg slot key dstGroup now true lock

/-- The lock test changes only the lock and answers in one of the six ways. -/
theorem callLockBlocks_verdict (cfg : Config) (slot : Slot) (key : StreamKey)
    (srcSub dstGroup : Bytes) (isEnd : Bool) (now : Time) :
    ∃ blocked lock, callLockBlocks cfg slot key srcSub dstGroup isEnd now =
        (blocked, { slot with lock := lock }) ∧ LockVerdict cfg slot key dstGroup now blocked lock := by
  by_cases disabled : cfg.ipscCallLock = false
  · exact ⟨false, slot.lock, by simp [callLockBlocks, disabled], .off disabled⟩
  have enabled : cfg.ipscCallLock = true := by simpa using disabled
  have pruned := slot.lock.prune_hold now
  by_cases known : ((slot.lock.prune now).blocked key).isSome = true
  · refine ⟨true, (slot.lock.prune now).setBlocked key
      (if isEnd then none else some (now + cfg.blockFor)), ?_, ?_⟩
    · simp [callLockBlocks, enabled, known]
    · exact .rejected _ ((CallLock.setBlocked_hold _ _ _).trans pruned) known
  have fresh : ((slot.lock.prune now).blocked key).isSome = false := by simpa using known
  by_cases free : slot.lock.owner = none ∨ callLockIsActive slot now = false
  · -- a free lock is taken, after an owner that is over has been forgotten
    refine ⟨false, acquireCallLock cfg key.direction srcSub dstGroup
      (if slot.lock.owner.isSome && !callLockIsActive slot now then (slot.lock.prune now).clear
        else slot.lock.prune now), ?_, .acquired _ fresh free ?_ ?_⟩
    · rcases free with unowned | lapsed
      · simp [callLockBlocks, enabled, fresh, pruned.owner, unowned]
      · cases owned : slot.lock.owner with
        | none => simp [callLockBlocks, enabled, fresh, pruned.owner, owned]
        | some owner =>
            simp [callLockBlocks, enabled, fresh, pruned.owner, owned,
              callLockIsActive_hold pruned, lapsed, CallLock.clear]
    · simp [acquireCallLock, enabled]
    · simp [acquireCallLock, enabled]
  obtain ⟨owned, active⟩ := not_or.mp free
  have active : callLockIsActive slot now = true := by simpa using active
  obtain ⟨owner, owned⟩ := Option.ne_none_iff_exists'.mp owned
  by_cases same : owner = key.direction
  · refine ⟨false, slot.lock.prune now, ?_, .continued _ fresh pruned (by rw [owned, same]) active⟩
    simp [callLockBlocks, enabled, fresh, pruned.owner, owned, callLockIsActive_hold pruned, active, same]
  have opposite : slot.lock.owner = some key.direction.other := by
    rw [owned, Direction.ne_iff_other.mp same]
  by_cases letIn : cfg.ipscCallLockSameTgOnly = true ∧ slot.lock.tg ≠ some dstGroup
  · refine ⟨false, slot.lock.prune now, ?_, .otherGroup _ fresh pruned opposite active letIn.1 letIn.2⟩
    simp [callLockBlocks, enabled, fresh, pruned.owner, pruned.tg, owned,
      callLockIsActive_hold pruned, active, same, letIn]
  · refine ⟨true, (slot.lock.prune now).setBlocked key (some (now + cfg.blockFor)), ?_,
      .collision _ ((CallLock.setBlocked_hold _ _ _).trans pruned) opposite active ?_⟩
    · simp [callLockBlocks, enabled, fresh, pruned.owner, pruned.tg, owned,
        callLockIsActive_hold pruned, active, same, letIn]
    · intro only
      by_contra differs
      exact letIn ⟨only, differs⟩

/-- The lock lets in every packet of one direction: the other direction does not own it and no
stream of the direction is rejected. -/
structure CallLock.OpenFor (direction : Direction) (lock : CallLock) : Prop where
  owner : lock.owner ≠ some direction.other
  unrejected : ∀ key : StreamKey, key.direction = direction → lock.blocked key = none

theorem CallLock.OpenFor.prune {direction : Direction} {lock : CallLock} (opened : lock.OpenFor direction)
    (now : Time) : (lock.prune now).OpenFor direction := by
  refine ⟨opened.owner, fun key same => ?_⟩
  have free := opened.unrejected key same
  rcases key with (_ | streamByte) | stream
  · rfl
  · exact congrArg (Option.filter _) free
  · exact congrArg (Option.filter _) free

theorem CallLock.OpenFor.clear {direction : Direction} {lock : CallLock}
    (opened : lock.OpenFor direction) : lock.clear.OpenFor direction := by
  refine ⟨by simp [CallLock.clear], fun key same => ?_⟩
  rw [← opened.unrejected key same]
  rcases key with (_ | streamByte) | stream <;> rfl

theorem CallLock.OpenFor.acquire {direction : Direction} {lock : CallLock}
    (opened : lock.OpenFor direction) (cfg : Config) (srcSub dstGroup : Bytes) :
    (acquireCallLock cfg direction srcSub dstGroup lock).OpenFor direction := by
  unfold acquireCallLock
  split
  case isTrue =>
    refine ⟨fun taken => direction.ne_other (Option.some.inj taken), fun key same => ?_⟩
    rw [← opened.unrejected key same]
    rcases key with (_ | streamByte) | stream <;> rfl
  case isFalse => exact opened

/-- An open lock lets the packet in and stays open. -/
theorem callLockBlocks_open (cfg : Config) (slot : Slot) (key : StreamKey)
    (opened : slot.lock.OpenFor key.direction) (srcSub dstGroup : Bytes) (isEnd : Bool) (now : Time) :
    ∃ lock, callLockBlocks cfg slot key srcSub dstGroup isEnd now = (false, { slot with lock := lock }) ∧
      lock.OpenFor key.direction := by
  have pruned := opened.prune now
  have fresh := pruned.unrejected key rfl
  unfold callLockBlocks
  split
  case isTrue => exact ⟨slot.lock, rfl, opened⟩
  case isFalse enabled =>
    simp only [fresh, Option.isSome_none, Bool.false_eq_true, if_false]
    have held : ∃ lock, (if (slot.lock.prune now).owner.isSome &&
          !callLockIsActive { slot with lock := slot.lock.prune now } now then
          { slot with lock := (slot.lock.prune now).clear }
        else { slot with lock := slot.lock.prune now }) = { slot with lock := lock } ∧
        lock.OpenFor key.direction := by
      split
      case isTrue => exact ⟨_, rfl, pruned.clear⟩
      case isFalse => exact ⟨_, rfl, pruned⟩
    obtain ⟨lock, recorded, free⟩ := held
    rw [recorded]
    cases owned : lock.owner with
    | none => exact ⟨_, rfl, free.acquire cfg srcSub dstGroup⟩
    | some owner =>
        have own : owner = key.direction := by
          by_contra other
          exact free.owner (by rw [owned, Direction.ne_iff_other.mp other])
        simp only [own, if_true]
        exact ⟨lock, rfl, free⟩

theorem CallLock.openFor_initial (direction : Direction) : ({} : CallLock).OpenFor direction := by
  refine ⟨by simp, fun key _ => ?_⟩
  rcases key with (_ | streamByte) | stream <;> rfl

/-- A release changes only the hang time. -/
theorem releaseCallLock_frame (cfg : Config) (direction : Direction) (now : Time) (lock : CallLock) :
    ∃ lockUntil, releaseCallLock cfg direction now lock = { lock with lockUntil := lockUntil } := by
  unfold releaseCallLock
  split
  case isTrue => exact ⟨now + cfg.hang, rfl⟩
  case isFalse => exact ⟨lock.lockUntil, rfl⟩

theorem releaseCallLock_owner (cfg : Config) (direction : Direction) (now : Time) (lock : CallLock) :
    (releaseCallLock cfg direction now lock).owner = lock.owner := by
  obtain ⟨lockUntil, released⟩ := releaseCallLock_frame cfg direction now lock
  rw [released]

theorem releaseCallLock_tg (cfg : Config) (direction : Direction) (now : Time) (lock : CallLock) :
    (releaseCallLock cfg direction now lock).tg = lock.tg := by
  obtain ⟨lockUntil, released⟩ := releaseCallLock_frame cfg direction now lock
  rw [released]

end Ipsc2Hbp
