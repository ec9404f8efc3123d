import Ipsc2Hbp.Construction.State

namespace Ipsc2Hbp
open BigEndian

/-- A packet names its stream by the IPSC stream byte or by the HBP stream ID. -/
inductive StreamKey where
  | ipsc (streamByte : Option UInt8)
  | hbp (stream : Bytes)
  deriving DecidableEq, Repr

def StreamKey.direction : StreamKey → Direction
  | .ipsc _ => .ipsc
  | .hbp _ => .hbp

/-- This is the expiry of a rejected stream in the table of its direction. -/
def CallLock.blocked (lock : CallLock) : StreamKey → Option Time
  | .ipsc none => none
  | .ipsc (some streamByte) => lock.blockedIpsc streamByte
  | .hbp stream => lock.blockedHbp stream

/-- This assigns or deletes a stream in the table of its direction. -/
def CallLock.setBlocked (lock : CallLock) (key : StreamKey) (expiry : Option Time) : CallLock :=
  match key with
  | .ipsc none => lock
  | .ipsc (some streamByte) =>
      { lock with blockedIpsc := Function.update lock.blockedIpsc streamByte expiry }
  | .hbp stream => { lock with blockedHbp := Function.update lock.blockedHbp stream expiry }

/-- `_prune_call_lock_blocks` forgets the rejected streams that have expired. -/
def CallLock.prune (lock : CallLock) (now : Time) : CallLock :=
  { lock with
    blockedIpsc := fun streamByte => (lock.blockedIpsc streamByte).filter fun expiry => now < expiry
    blockedHbp := fun stream => (lock.blockedHbp stream).filter fun expiry => now < expiry }

/-- `_clear_call_lock` forgets the owner but keeps the rejected streams. -/
def CallLock.clear (lock : CallLock) : CallLock :=
  { lock with owner := none, src := none, tg := none, lockUntil := 0 }

/-- `_clear_call_locks` also forgets the rejected streams. -/
def CallLock.clearAll (lock : CallLock) : CallLock :=
  { lock.clear with blockedIpsc := fun _ => none, blockedHbp := fun _ => none }

/-- `_acquire_call_lock` records the direction and the call. -/
def acquireCallLock (cfg : Config) (direction : Direction) (srcSub dstGroup : Bytes)
    (lock : CallLock) : CallLock :=
  if cfg.ipscCallLock then
    { lock with owner := some direction, src := some srcSub, tg := some dstGroup, lockUntil := 0 }
  else lock

/-- `_release_call_lock` starts the hang time of its own direction's lock. -/
def releaseCallLock (cfg : Config) (direction : Direction) (now : Time) (lock : CallLock) : CallLock :=
  if cfg.ipscCallLock && lock.owner = some direction then
    { lock with lockUntil := now + cfg.hang }
  else lock

/-- The direction's own call state of the slot is open. -/
def directionActive (slot : Slot) : Direction → Bool
  | .ipsc => slot.outCall.streamId.isSome
  | .hbp => slot.inCall.lc.isSome || slot.inCall.started || !slot.tx.queue.isEmpty

/-- `_call_lock_is_active` holds while the owner's call or the hang time lasts. -/
def callLockIsActive (slot : Slot) (now : Time) : Bool :=
  match slot.lock.owner with
  | none => false
  | some owner => directionActive slot owner || now ≤ slot.lock.lockUntil

/-- `_hbp_ipsc_queue_drained` restarts the hang time after the last queued packet. -/
def hbpIpscQueueDrained (cfg : Config) (now : Time) (slot : Slot) : Slot :=
  if slot.lock.owner = some .hbp && slot.inCall.lc.isNone then
    { slot with lock.lockUntil := now + cfg.hang }
  else slot

/-- `_call_lock_blocks` decides whether the lock drops a packet; `isEnd` marks a terminator. -/
def callLockBlocks (cfg : Config) (slot : Slot) (key : StreamKey) (srcSub dstGroup : Bytes)
    (isEnd : Bool) (now : Time) : Bool × Slot :=
  if !cfg.ipscCallLock then (false, slot)
  else
    let slot := { slot with lock := slot.lock.prune now }
    if (slot.lock.blocked key).isSome then
      let expiry := if isEnd then none else some (now + cfg.blockFor)
      (true, { slot with lock := slot.lock.setBlocked key expiry })
    else
      -- an owner whose call and hang time are over no longer counts
      let slot := if slot.lock.owner.isSome && !callLockIsActive slot now then
        { slot with lock := slot.lock.clear } else slot
      match slot.lock.owner with
      | none =>
          (false, { slot with lock := acquireCallLock cfg key.direction srcSub dstGroup slot.lock })
      | some owner =>
          if owner = key.direction then (false, slot)
          else if cfg.ipscCallLockSameTgOnly && slot.lock.tg ≠ some dstGroup then (false, slot)
          else (true, { slot with lock := slot.lock.setBlocked key (some (now + cfg.blockFor)) })

end Ipsc2Hbp
