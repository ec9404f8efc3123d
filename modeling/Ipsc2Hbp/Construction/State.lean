import Ipsc2Hbp.Construction.Config
import Ipsc2Hbp.Construction.Dmr

namespace Ipsc2Hbp
open BigEndian

inductive Timeslot where
  | ts1
  | ts2
  deriving DecidableEq, Repr

/-- The two call directions, as the call lock names its owner. -/
inductive Direction where
  | ipsc
  | hbp
  deriving DecidableEq, Repr

/-- The exceptions that a handler can end with. -/
inductive PyErr where
  | indexError
  | valueError
  | typeError
  | attributeError
  deriving DecidableEq, Repr

/-- The hash functions of Python's standard library that the two stacks call. -/
structure Digests where
  sha256 : Bytes → Bytes
  hmacSha1 : Bytes → Bytes → Bytes

/-- The digests have the widths of their algorithms. -/
structure Digests.Documented (digests : Digests) : Prop where
  sha256 : ∀ message, (digests.sha256 message).length = 32
  hmacSha1 : ∀ key message, (digests.hmacSha1 key message).length = 20

/-- The four bytes of one `os.urandom(4)`. -/
abbrev StreamId := {bytes : Bytes // bytes.length = 4}

/-- The readings of `time()` in one callback, numbered in program order. -/
abbrev Clock := Nat → Time

/-- The outbound call state (IPSC → HBP) of one timeslot: the `_out_*` fields. -/
structure OutCall where
  streamId : Option Bytes := none
  framePos : Nat := 0
  lc : Option Bytes := none
  embLc : Option EmbLc := none
  ipscStreamByte : Option UInt8 := none
  lastPkt : Time := 0

/-- The inbound call state (HBP → IPSC) of one timeslot: the `_in_*` fields.
`serial` numbers the calls of the slot; it is a history variable that no branch reads. -/
structure InCall where
  lc : Option Bytes := none
  embLc : Option EmbLc := none
  streamId : UInt8 := 0
  hbpStream : Option Bytes := none
  srcSub : Option Bytes := none
  dstGroup : Option Bytes := none
  lastHead : Time := 0
  rtpSeq : UInt16 := 0
  rtpTs : UInt32 := 0
  started : Bool := false
  lastPkt : Time := 0
  serial : Nat := 0

/-- The call lock of one timeslot: the `_call_lock_*` fields. -/
structure CallLock where
  owner : Option Direction := none
  src : Option Bytes := none
  tg : Option Bytes := none
  lockUntil : Time := 0
  blockedIpsc : UInt8 → Option Time := fun _ => none
  blockedHbp : Bytes → Option Time := fun _ => none

/-- One entry of the pacing queue; `call` is the serial of the call that generated it. -/
structure QueueEntry where
  packet : Bytes
  srcSub : Bytes
  dstGroup : Bytes
  burstType : UInt8
  call : Nat
  deriving DecidableEq, Repr

/-- A pending drain callback and the earliest time it may run. -/
inductive DrainHandle where
  | callSoon
  | callLater (due : Time)
  deriving DecidableEq, Repr

/-- The pacing state of one timeslot: the `_ipsc_tx_*` fields. -/
structure TxQueue where
  queue : List QueueEntry := []
  handle : Option DrainHandle := none
  nextAt : Time := 0

/-- The reflection tables of one timeslot: the `_reflect_*` fields. -/
structure Reflect where
  recent : List (Bytes × Bytes × Time) := []
  ignore : UInt8 → Option Time := fun _ => none

/-- The part of the translator's state that is keyed by one timeslot. -/
structure Slot where
  outCall : OutCall := {}
  inCall : InCall := {}
  lock : CallLock := {}
  tx : TxQueue := {}
  reflect : Reflect := {}
  ipscBusyLast : Time := 0

/-- The part of the translator's state that both timeslots share. -/
structure Shared where
  outSeq : UInt8 := 0
  inStreamCtr : UInt8 := 0
  peerCallType : Bytes := [0x02]
  peerCallCtrl : Bytes := [0x00, 0x00, 0x43, 0xe2]
  deriving DecidableEq, Repr

/-- The state of a CallTranslator. -/
structure Translator where
  shared : Shared := {}
  slot : Timeslot → Slot := fun _ => {}

/-- The effects of one handler on one timeslot, in order. A raised exception is the last.
`openStream` names a new stream and the LC of the packet that opens it. -/
inductive Action where
  | openStream (streamId lc : Bytes)
  | sendDmrd (dmrd : Bytes)
  | generate (entry : QueueEntry)
  | queueFull (entry : QueueEntry)
  | slotBusy (entry : QueueEntry)
  | sendToPeer (entry : QueueEntry)
  | raised (err : PyErr)
  deriving DecidableEq, Repr

/-- A byte string that is unset or empty is false in Python. -/
def truthyOr (value : Option Bytes) (fallback : Bytes) : Bytes :=
  match value with
  | none => fallback
  | some [] => fallback
  | some bytes => bytes

end Ipsc2Hbp
