import Ipsc2Hbp.Library.Mealy
import Ipsc2Hbp.Construction.Pacing

namespace Ipsc2Hbp
open BigEndian

/-- The callback that `_schedule_hbp_to_ipsc_drain` hands to the event loop. -/
def scheduledCallback (now : Time) (slot : Slot) : Option DrainHandle :=
  if slot.tx.handle.isSome then none
  else if slot.tx.queue.isEmpty then none
  else
    let delay := max 0 (slot.tx.nextAt - now)
    if delay ≤ 1 / 1000 then some .callSoon else some (.callLater (now + delay))

/-- The callback that `_send_hbp_to_ipsc` hands to the event loop. -/
def sendCallback (cfg : Config) (entry : QueueEntry) (clock : Clock) (slot : Slot) :
    Option DrainHandle :=
  if !cfg.hbpToIpscPacing then none
  else if cfg.queueLimit ≤ slot.tx.queue.length then none
  else
    let slot := { slot with tx.queue := slot.tx.queue ++ [entry] }
    if slot.tx.handle.isNone then scheduledCallback (clock 0) slot else none

/-- The callback that `_drain_hbp_to_ipsc_queue` hands to the event loop. -/
def drainCallback (cfg : Config) (clock : Clock) (slot : Slot) : Option DrainHandle :=
  let slot := { slot with tx.handle := none }
  match slot.tx.queue with
  | [] => none
  | entry :: rest =>
      let sent := sendHbpToIpscNow cfg entry clock { slot with tx.queue := rest }
      let slot := { sent.1 with tx.nextAt := clock 2 + cfg.frameInterval }
      if !slot.tx.queue.isEmpty then scheduledCallback (clock 3) slot else none

/-- A timeslot with the drain callbacks that the event loop holds for it. -/
structure PacedSlot where
  slot : Slot := {}
  callbacks : List DrainHandle := []

/-- What happens to the pacing queue of a timeslot: a packet is passed to `_send_hbp_to_ipsc`, the
event loop runs a drain callback, or `_clear_ipsc_tx_queues` runs. All other work on the timeslot
keeps its pacing state. -/
inductive TxEvent where
  | send (entry : QueueEntry) (clock : Clock)
  | drain (callback : DrainHandle) (clock : Clock)
  | clear
  | other (slot : Slot)

/-- One event on a timeslot and its event loop. The loop forgets a callback that runs and a callback
whose handle is cancelled. -/
def PacedSlot.step (cfg : Config) (paced : PacedSlot) : TxEvent → PacedSlot × List Action
  | .send entry clock =>
      let sent := sendHbpToIpsc cfg entry clock paced.slot
      (⟨sent.1, paced.callbacks ++ (sendCallback cfg entry clock paced.slot).toList⟩, sent.2)
  | .drain callback clock =>
      let drained := drainHbpToIpscQueue cfg clock paced.slot
      (⟨drained.1, paced.callbacks.erase callback ++ (drainCallback cfg clock paced.slot).toList⟩,
        drained.2)
  | .clear =>
      let left := match paced.slot.tx.handle with
        | none => paced.callbacks
        | some handle => paced.callbacks.erase handle
      (⟨{ paced.slot with tx := clearIpscTxQueue paced.slot.tx }, left⟩, [])
  | .other slot => ({ paced with slot := { slot with tx := paced.slot.tx } }, [])

/-- The pacing of a timeslot as a machine. -/
def pacer (cfg : Config) : Mealy PacedSlot TxEvent Action where
  step := PacedSlot.step cfg

/-- The packets that a log takes out of the pacing queue: each is sent or dropped at a busy slot. -/
def takenEntries (log : List Action) : List QueueEntry :=
  log.filterMap fun action => match action with
    | .sendToPeer entry => some entry
    | .slotBusy entry => some entry
    | _ => none

/-- What has passed through the pacing queue since its last reset. -/
structure TxHistory where
  accepted : List QueueEntry := []
  taken : List QueueEntry := []

/-- The packets are accepted that do not find the queue full. -/
def TxHistory.record (cfg : Config) (history : TxHistory) (paced : PacedSlot) : TxEvent → TxHistory
  | .send entry _ =>
      if cfg.queueLimit ≤ paced.slot.tx.queue.length then history
      else { history with accepted := history.accepted ++ [entry] }
  | .drain _ clock =>
      { history with
        taken := history.taken ++ takenEntries (drainHbpToIpscQueue cfg clock paced.slot).2 }
  | .clear => {}
  | .other _ => history

end Ipsc2Hbp
