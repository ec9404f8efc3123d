import Ipsc2Hbp.Construction.CallLock

namespace Ipsc2Hbp
open BigEndian

/-- `_is_ipsc_slot_busy` holds shortly after an accepted IPSC packet. -/
def isIpscSlotBusy (cfg : Config) (now : Time) (slot : Slot) : Bool :=
  if !cfg.ipscBusySlotGuard then false
  else if cfg.holdoff ≤ 0 then false
  else now - slot.ipscBusyLast < cfg.holdoff

/-- The first entry of the same call gets the new expiry; the flag says that there was one. -/
def refreshRecent (srcSub dstGroup : Bytes) (expires : Time) :
    List (Bytes × Bytes × Time) → List (Bytes × Bytes × Time) × Bool
  | [] => ([], false)
  | (src, dst, expiry) :: rest =>
      if src = srcSub ∧ dst = dstGroup then ((srcSub, dstGroup, expires) :: rest, true)
      else
        let tail := refreshRecent srcSub dstGroup expires rest
        ((src, dst, expiry) :: tail.1, tail.2)

/-- `_remember_hbp_to_ipsc` records a sent packet for the reflection tables. -/
def rememberHbpToIpsc (cfg : Config) (srcSub dstGroup : Bytes) (now : Time) (slot : Slot) : Slot :=
  if !cfg.ipscReflectSuppression then slot
  else
    let window := max 0 cfg.ipscReflectWindow
    if window ≤ 0 then slot
    else
      let entries := slot.reflect.recent.filter fun entry => now < entry.2.2
      let refreshed := refreshRecent srcSub dstGroup (now + window) entries
      let recent := if refreshed.2 then refreshed.1
        else refreshed.1 ++ [(srcSub, dstGroup, now + window)]
      { slot with reflect.recent := recent }

/-- `_send_hbp_to_ipsc_now` drops the packet when the slot is busy from IPSC.
It reads the clock for the busy test and again to remember the packet. -/
def sendHbpToIpscNow (cfg : Config) (entry : QueueEntry) (clock : Clock) (slot : Slot) :
    Slot × List Action :=
  if isIpscSlotBusy cfg (clock 0) slot then (slot, [.slotBusy entry])
  else (rememberHbpToIpsc cfg entry.srcSub entry.dstGroup (clock 1) slot, [.sendToPeer entry])

/-- `_schedule_hbp_to_ipsc_drain` leaves one drain callback pending. -/
def scheduleHbpToIpscDrain (cfg : Config) (now : Time) (slot : Slot) : Slot :=
  if slot.tx.handle.isSome then slot
  else if slot.tx.queue.isEmpty then hbpIpscQueueDrained cfg now slot
  else
    let delay := max 0 (slot.tx.nextAt - now)
    if delay ≤ 1 / 1000 then { slot with tx.handle := some .callSoon }
    else { slot with tx.handle := some (.callLater (now + delay)) }

/-- `_send_hbp_to_ipsc` sends a generated packet at once or queues it for its turn. -/
def sendHbpToIpsc (cfg : Config) (entry : QueueEntry) (clock : Clock) (slot : Slot) :
    Slot × List Action :=
  if !cfg.hbpToIpscPacing then
    let sent := sendHbpToIpscNow cfg entry clock slot
    (sent.1, .generate entry :: sent.2)
  else if cfg.queueLimit ≤ slot.tx.queue.length then (slot, [.generate entry, .queueFull entry])
  else
    let slot := { slot with tx.queue := slot.tx.queue ++ [entry] }
    (if slot.tx.handle.isNone then scheduleHbpToIpscDrain cfg (clock 0) slot else slot,
      [.generate entry])

/-- `_drain_hbp_to_ipsc_queue` takes one packet out and schedules the next drain. -/
def drainHbpToIpscQueue (cfg : Config) (clock : Clock) (slot : Slot) : Slot × List Action :=
  let slot := { slot with tx.handle := none }
  match slot.tx.queue with
  | [] => (hbpIpscQueueDrained cfg (clock 0) slot, [])
  | entry :: rest =>
      let sent := sendHbpToIpscNow cfg entry clock { slot with tx.queue := rest }
      let slot := { sent.1 with tx.nextAt := clock 2 + cfg.frameInterval }
      (if !slot.tx.queue.isEmpty then scheduleHbpToIpscDrain cfg (clock 3) slot
        else hbpIpscQueueDrained cfg (clock 3) slot, sent.2)

/-- `_clear_ipsc_tx_queues` cancels the pending drain and drops the queue. -/
def clearIpscTxQueue (tx : TxQueue) : TxQueue :=
  { tx with handle := none, queue := [], nextAt := 0 }

end Ipsc2Hbp
