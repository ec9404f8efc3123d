import Ipsc2Hbp.Library.Mealy
import Ipsc2Hbp.Construction.Inbound

namespace Ipsc2Hbp
open BigEndian

/-- The callbacks of the translator with all that each one reads from outside:
the connection states, the packet, the random draws and the clock readings. -/
inductive Event where
  | ipscVoice (connected : Bool) (data : Bytes) (ts : Timeslot) (burstType : UInt8)
      (urandom : StreamId) (clock : Clock)
  | hbpVoice (registered : Bool) (dmrd : Bytes) (draw : RtpDraw) (clock : Clock)
  | drain (ts : Timeslot) (clock : Clock)
  | checkCallTimeouts (timeout : Time) (clock : Clock)
  | peerRegistered
  | peerLost
  | hbpDisconnected

/-- The effects of a callback: those on one timeslot and the two calls to the HBP client. -/
inductive Output where
  | slot (ts : Timeslot) (action : Action)
  | raised (err : PyErr)
  | activate
  | deactivate
  deriving DecidableEq, Repr

namespace Translator

/-- The handler of one timeslot keeps the other timeslot's state. -/
def onSlot (tr : Translator) (ts : Timeslot)
    (handler : Shared → Slot → Shared × Slot × List Action) : Translator × List Output :=
  let result := handler tr.shared (tr.slot ts)
  (⟨result.1, Function.update tr.slot ts result.2.1⟩, result.2.2.map (Output.slot ts))

/-- A callback on both timeslots changes each by the same rule. -/
def mapSlots (tr : Translator) (change : Timeslot → Slot → Slot) : Translator :=
  { tr with slot := fun ts => change ts (tr.slot ts) }

end Translator

/-- The fields of an outbound call that a lost peer or connection clears. -/
def clearOutCall (outCall : OutCall) : OutCall :=
  { outCall with
    streamId := none, lc := none, embLc := none, ipscStreamByte := none, lastPkt := 0 }

/-- The fields of an inbound call that a lost peer or connection clears. -/
def clearInCall (inCall : InCall) : InCall :=
  { inCall with
    lc := none, embLc := none, streamId := 0, hbpStream := none, srcSub := none, dstGroup := none,
    lastHead := 0, lastPkt := 0, started := false }

/-- `hbp_disconnected` clears the calls, the pacing queues and the reflection tables. -/
def disconnectSlot (slot : Slot) : Slot :=
  { slot with
    outCall := clearOutCall slot.outCall
    inCall := clearInCall slot.inCall
    tx := clearIpscTxQueue slot.tx
    reflect := {} }

/-- `peer_lost` also clears the call locks. -/
def peerLostSlot (slot : Slot) : Slot :=
  { disconnectSlot slot with lock := slot.lock.clearAll }

/-- `check_call_timeouts` closes an outbound call that has been silent too long. -/
def checkOutTimeout (cfg : Config) (timeout now releaseAt : Time) (slot : Slot) : Slot :=
  if slot.outCall.streamId.isSome && timeout < now - slot.outCall.lastPkt then
    { slot with
      outCall := { slot.outCall with streamId := none, lc := none, embLc := none }
      lock := releaseCallLock cfg .ipsc releaseAt slot.lock }
  else slot

/-- `check_call_timeouts` closes an inbound call that has been silent too long. -/
def checkInTimeout (cfg : Config) (timeout now releaseAt : Time) (slot : Slot) : Slot :=
  if slot.inCall.lc.isSome && timeout < now - slot.inCall.lastPkt then
    endHbpCall cfg releaseAt slot
  else slot

/-- The clock reading of the first release on a timeslot in `check_call_timeouts`. -/
def timeoutReading : Timeslot → Nat
  | .ts1 => 1
  | .ts2 => 3

def checkCallTimeouts (cfg : Config) (timeout : Time) (clock : Clock) (ts : Timeslot)
    (slot : Slot) : Slot :=
  checkInTimeout cfg timeout (clock 0) (clock (timeoutReading ts + 1))
    (checkOutTimeout cfg timeout (clock 0) (clock (timeoutReading ts)) slot)

/-- `hbp_voice_received` checks the peer and the length and finds the timeslot in the flags. -/
def hbpVoiceReceived (dmr : DmrUtils) (cfg : Config) (registered : Bool) (dmrd : Bytes)
    (draw : RtpDraw) (clock : Clock) (tr : Translator) : Translator × List Output :=
  if !registered then (tr, [])
  else if dmrd.length < dmrdLen then (tr, [])
  else match dmrd[dmrdFlagsOff]? with
  | none => (tr, [.raised .indexError])
  | some flags =>
      let frame := HbpFrame.parse dmrd flags
      tr.onSlot frame.timeslot (hbpFrameReceived dmr cfg frame draw clock)

/-- One callback of the translator. -/
def Translator.step (dmr : DmrUtils) (cfg : Config) (tr : Translator) :
    Event → Translator × List Output
  | .ipscVoice connected data ts burstType urandom clock =>
      tr.onSlot ts (ipscVoiceReceived dmr cfg connected data ts burstType urandom clock)
  | .hbpVoice registered dmrd draw clock => hbpVoiceReceived dmr cfg registered dmrd draw clock tr
  | .drain ts clock =>
      tr.onSlot ts fun shared slot =>
        let drained := drainHbpToIpscQueue cfg clock slot
        (shared, drained.1, drained.2)
  | .checkCallTimeouts timeout clock =>
      (tr.mapSlots (checkCallTimeouts cfg timeout clock), [])
  | .peerRegistered => (tr, if cfg.hbpMode = .tracking then [.activate] else [])
  | .peerLost =>
      ({ tr.mapSlots (fun _ => peerLostSlot) with
          shared := { tr.shared with
            peerCallType := [0x02], peerCallCtrl := [0x00, 0x00, 0x43, 0xe2] } },
        if cfg.hbpMode = .tracking then [.deactivate] else [])
  | .hbpDisconnected => (tr.mapSlots fun _ => disconnectSlot, [])

/-- The translator as a machine over its callbacks. -/
def translator (dmr : DmrUtils) (cfg : Config) : Mealy Translator Event Output where
  step := Translator.step dmr cfg

/-- The translator after `__init__`. -/
def Translator.initial : Translator := {}

/-- The effects on one timeslot in a log of outputs. -/
def slotActions (ts : Timeslot) (log : List Output) : List Action :=
  log.filterMap fun output => match output with
    | .slot other action => if other = ts then some action else none
    | _ => none

end Ipsc2Hbp
