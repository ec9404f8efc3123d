import Ipsc2Hbp.Proof.SlotStep

namespace Ipsc2Hbp
open BigEndian

/-- The clock readings of a callback. -/
def Event.clock : Event → Option Clock
  | .ipscVoice _ _ _ _ _ clock => some clock
  | .hbpVoice _ _ _ clock => some clock
  | .drain _ clock => some clock
  | .checkCallTimeouts _ clock => some clock
  | .peerRegistered | .peerLost | .hbpDisconnected => none

/-- The clock never goes back, neither in a callback nor from one callback to a later one. -/
structure ClockForward (events : List Event) : Prop where
  inside : ∀ event ∈ events, ∀ clock ∈ event.clock, Monotone clock
  between : events.Pairwise fun first second =>
    ∀ one ∈ first.clock, ∀ two ∈ second.clock, ∀ early late, one early ≤ two late

/-- A packet that a callback hands to the call lock, with the clock reading of the lock's test. -/
structure LockPacket where
  key : StreamKey
  srcSub : Bytes
  dstGroup : Bytes
  isEnd : Bool
  now : Time
  deriving DecidableEq

/-- The lock's test of a packet. -/
def LockPacket.test (cfg : Config) (packet : LockPacket) (slot : Slot) : Bool × Slot :=
  callLockBlocks cfg slot packet.key packet.srcSub packet.dstGroup packet.isEnd packet.now

/-- The packet of an IPSC callback that finds HBP connected. -/
def ipscLockPacket (data : Bytes) (burstType : UInt8) (clock : Clock) : LockPacket where
  key := .ipsc data[gvIpscSeqOff]?
  srcSub := gvSrcSub data
  dstGroup := gvDstGroup data
  isEnd := burstType = voiceTerm
  now := clock 2

/-- The packet of an accepted DMRD frame. -/
def hbpLockPacket (frame : HbpFrame) (clock : Clock) : LockPacket where
  key := .hbp frame.stream
  srcSub := frame.srcSub
  dstGroup := frame.dstGroup
  isEnd := frame.isTerm
  now := clock 1

/-- The packet that reaches the call lock of the timeslot. -/
def SlotEvent.lockPacket : SlotEvent → Option LockPacket
  | .ipscVoice connected data burstType _ clock =>
      if connected then some (ipscLockPacket data burstType clock) else none
  | .hbpFrame frame _ clock => some (hbpLockPacket frame clock)
  | .drain _ | .checkCallTimeouts .. | .peerLost | .hbpDisconnected => none

/-- The state of the timeslot in which the call lock is asked. -/
def SlotEvent.asked (cfg : Config) (slot : Slot) : SlotEvent → Slot
  | .ipscVoice _ data burstType _ clock => (legacyPrelude cfg data burstType clock slot).2
  | .hbpFrame _ _ clock => { slot with inCall.lastPkt := clock 0 }
  | .drain _ | .checkCallTimeouts .. | .peerLost | .hbpDisconnected => slot

/-- The clock readings of a callback on the timeslot. -/
def SlotEvent.clock : SlotEvent → Option Clock
  | .ipscVoice _ _ _ _ clock => some clock
  | .hbpFrame _ _ clock => some clock
  | .drain clock => some clock
  | .checkCallTimeouts _ clock => some clock
  | .peerLost | .hbpDisconnected => none

/-- The packet of a callback for the timeslot. -/
def Event.lockPacket (ts : Timeslot) (event : Event) : Option LockPacket :=
  (event.atSlot ts).bind SlotEvent.lockPacket

/-- The call lock rejects the callback's packet. -/
def SlotEvent.Rejected (cfg : Config) (slot : Slot) (part : SlotEvent) : Prop :=
  ∃ packet ∈ part.lockPacket, (packet.test cfg (part.asked cfg slot)).1 = true

/-- The call lock of the timeslot rejects the callback's packet. -/
def Rejected (cfg : Config) (ts : Timeslot) (tr : Translator) (event : Event) : Prop :=
  ∃ part ∈ event.atSlot ts, part.Rejected cfg (tr.slot ts)

/-- The part of a callback has the readings of its clock. -/
theorem Event.atSlot_clock {ts : Timeslot} {event : Event} {part : SlotEvent}
    (seen : event.atSlot ts = some part) : part.clock = event.clock := by
  cases Event.atSlot_cases seen with
  | ipscVoice | hbpVoice | drain | checkCallTimeouts | peerLost | hbpDisconnected => rfl

/-- The packets of a callback carry the readings of its clock. -/
theorem Event.lockPacket_clock {ts : Timeslot} {event : Event} {packet : LockPacket}
    (arrives : event.lockPacket ts = some packet) :
    ∃ clock ∈ event.clock, ∃ reading, packet.now = clock reading := by
  obtain ⟨part, seen, handed⟩ := Option.bind_eq_some_iff.mp arrives
  rw [← Event.atSlot_clock seen]
  cases part with
  | ipscVoice connected data burstType urandom clock =>
      simp only [SlotEvent.lockPacket, Option.ite_none_right_eq_some] at handed
      obtain ⟨-, rfl⟩ := handed.imp_right Option.some.inj
      exact ⟨clock, rfl, 2, rfl⟩
  | hbpFrame frame draw clock =>
      obtain rfl := Option.some.inj handed
      exact ⟨clock, rfl, 1, rfl⟩
  | drain | checkCallTimeouts | peerLost | hbpDisconnected => cases handed

/-- Later packets carry later readings. -/
theorem ClockForward.packets {events : List Event} (forward : ClockForward events) (ts : Timeslot) :
    events.Pairwise fun first second => ∀ one ∈ first.lockPacket ts, ∀ two ∈ second.lockPacket ts,
      one.now ≤ two.now := by
  refine forward.between.imp fun ordered one first two second => ?_
  obtain ⟨oneClock, oneMember, early, oneNow⟩ := Event.lockPacket_clock first
  obtain ⟨twoClock, twoMember, late, twoNow⟩ := Event.lockPacket_clock second
  rw [oneNow, twoNow]
  exact ordered oneClock oneMember twoClock twoMember early late

/-- An IPSC packet is dropped as stale, rejected by the lock, or goes on under the lock's answer. -/
inductive IpscTested (cfg : Config) (data : Bytes) (burstType : UInt8) (clock : Clock)
    (shared : Shared) (slot : Slot) : Shared × Slot × List Action → Prop
  | stale (legacy : cfg.legacyFlow = true)
      (foreign : (legacyPrelude cfg data burstType clock slot).1 = true) :
      IpscTested cfg data burstType clock shared slot
        (shared, (legacyPrelude cfg data burstType clock slot).2, [])
  | rejected (after : Slot)
      (answer : (ipscLockPacket data burstType clock).test cfg
        (legacyPrelude cfg data burstType clock slot).2 = (true, after)) :
      IpscTested cfg data burstType clock shared slot (shared, after, [])
  | admitted (before : Slot) (result : Shared × Slot × List Action)
      (answer : (ipscLockPacket data burstType clock).test cfg
        (legacyPrelude cfg data burstType clock slot).2 = (false, before))
      (lock : result.2.1.lock = before.lock ∨
        result.2.1.lock = releaseCallLock cfg .ipsc (clock 5) before.lock)
      (inCall : result.2.1.inCall = before.inCall) (tx : result.2.1.tx = before.tx) :
      IpscTested cfg data burstType clock shared slot result

/-- A packet that is let in touches the lock at most by releasing it. -/
theorem BurstOutcome.lock {dmr : DmrUtils} {cfg : Config} {ts : Timeslot} {data : Bytes}
    {burstType : UInt8} {urandom : StreamId} {now : Time} {seq : UInt8} {slot after : Slot}
    {actions : List Action}
    (outcome : BurstOutcome dmr cfg ts data burstType urandom now seq slot after actions) :
    after.lock = slot.lock ∨ after.lock = releaseCallLock cfg .ipsc now slot.lock := by
  cases outcome with
  | ended => exact .inr rfl
  | ignored | outOfRange | headOpened | headRepeated | voiceSent | enteredLate | enteredSilent =>
      exact .inl rfl

theorem ipscVoiceReceived_tested (dmr : DmrUtils) (cfg : Config) (data : Bytes) (ts : Timeslot)
    (burstType : UInt8) (urandom : StreamId) (clock : Clock) (shared : Shared) (slot : Slot) :
    IpscTested cfg data burstType clock shared slot
      (ipscVoiceReceived dmr cfg true data ts burstType urandom clock shared slot) := by
  rw [ipscVoiceReceived_eq]
  have answer : ∃ blocked before, (ipscLockPacket data burstType clock).test cfg
      (legacyPrelude cfg data burstType clock slot).2 = (blocked, before) := ⟨_, _, rfl⟩
  obtain ⟨blocked, before, answer⟩ := answer
  have decided := answer
  unfold LockPacket.test ipscLockPacket at decided
  unfold ipscGate
  cases stale : (legacyPrelude cfg data burstType clock slot).1 with
  | true =>
      simp only [stale, if_true]
      refine .stale ?_ stale
      by_contra packetFlow
      rw [legacyPrelude_packetFlow (by simpa using packetFlow)] at stale
      cases stale
  | false =>
      simp only [stale, Bool.false_eq_true, if_false, decided]
      cases blocked with
      | true =>
          simp only [if_true]
          exact .rejected before answer
      | false =>
          simp only [Bool.false_eq_true, if_false]
          obtain ⟨suppressed, reflect, judged⟩ := shouldSuppressIpscReflection_frame cfg
            data[gvIpscSeqOff]? burstType (gvSrcSub data) (gvDstGroup data) (clock 3) before
          simp only [judged]
          cases suppressed with
          | true => exact .admitted before _ answer (.inl rfl) rfl rfl
          | false =>
              simp only [Bool.false_eq_true, if_false]
              have outcome := sendBurst_cases dmr cfg ts data burstType urandom (clock 5)
                (shared.learn data) { before with reflect := reflect, ipscBusyLast := clock 4 }
              exact .admitted before _ answer outcome.lock outcome.side.inCall outcome.side.tx

/-- A frame that the lock lets in goes on under the lock's answer. -/
theorem hbpFrameReceived_admitted (dmr : DmrUtils) {cfg : Config} {frame : HbpFrame} (draw : RtpDraw)
    {clock : Clock} (shared : Shared) {slot : Slot}
    (letIn : ((hbpLockPacket frame clock).test cfg { slot with inCall.lastPkt := clock 0 }).1 = false) :
    hbpFrameReceived dmr cfg frame draw clock shared slot =
      hbpAdmitted dmr cfg frame draw clock shared
        ((hbpLockPacket frame clock).test cfg { slot with inCall.lastPkt := clock 0 }).2 := by
  unfold hbpFrameReceived
  exact if_neg (Bool.eq_false_iff.mp letIn)

/-- A frame is rejected by the lock or acts under the lock's answer. -/
theorem hbpFrameReceived_tested (dmr : DmrUtils) (cfg : Config) (frame : HbpFrame) (draw : RtpDraw)
    (clock : Clock) (shared : Shared) (slot : Slot) :
    let test := (hbpLockPacket frame clock).test cfg { slot with inCall.lastPkt := clock 0 }
    let result := hbpFrameReceived dmr cfg frame draw clock shared slot
    (test.1 = true ∧ result = (shared, test.2, [])) ∨
      (test.1 = false ∧ HbpOutcome dmr cfg frame draw clock shared test.2 result) := by
  intro test result
  cases answer : test.1 with
  | true =>
      refine .inl ⟨rfl, ?_⟩
      change hbpFrameReceived dmr cfg frame draw clock shared slot = _
      unfold hbpFrameReceived
      exact if_pos answer
  | false =>
      have passed : result = hbpAdmitted dmr cfg frame draw clock shared test.2 :=
        hbpFrameReceived_admitted dmr draw shared answer
      refine .inr ⟨rfl, ?_⟩
      rw [passed]
      exact hbpAdmitted_cases ..

theorem SendNow.lock {cfg : Config} {entry : QueueEntry} {clock : Clock} {slot after : Slot}
    {actions : List Action} (sent : SendNow cfg entry clock slot after actions) :
    after.lock = slot.lock := by
  cases sent with
  | busy | sent => rfl

/-- Passing a generated packet on leaves the lock alone. -/
theorem SendOutcome.lock {cfg : Config} {entry : QueueEntry} {clock : Clock} {slot after : Slot}
    {actions : List Action} (outcome : SendOutcome cfg entry clock slot after actions) :
    after.lock = slot.lock := by
  cases outcome with
  | direct after actions unpaced sent => exact sent.lock
  | full | queued => rfl

theorem generatePacket_lock (cfg : Config) (shared : Shared) (frame : HbpFrame)
    (callInfo rtpPt : UInt8) (gvPayload : Bytes) (burstType : UInt8) (clock : Clock) (slot : Slot) :
    (generatePacket cfg shared frame callInfo rtpPt gvPayload burstType clock slot).1.lock =
      slot.lock :=
  (generatePacket_cases ..).lock

theorem emitHbpIpscStart_lock (dmr : DmrUtils) (cfg : Config) (shared : Shared) (frame : HbpFrame)
    (clock : Clock) (slot : Slot) :
    (emitHbpIpscStart dmr cfg shared frame clock slot).1.lock = slot.lock := by
  unfold emitHbpIpscStart
  split
  case isTrue => rfl
  case isFalse =>
    exact emitHeads_invariant dmr cfg shared frame
      (truthyOr slot.inCall.lc (dmr.lcOpt ++ frame.dstGroup ++ frame.srcSub)) clock
      (fun _ _ after => after.lock = slot.lock)
      (fun _ _ _ before => (generatePacket_lock ..).trans before) cfg.headerCount 0 [] slot rfl

theorem continueVoice_lock (dmr : DmrUtils) (cfg : Config) (frame : HbpFrame) (clock : Clock)
    (shared : Shared) (slot : Slot) :
    (continueVoice dmr cfg frame clock shared slot).1.lock = slot.lock := by
  have start := emitHbpIpscStart_lock dmr cfg shared frame (fun reading => clock (2 + reading)) slot
  unfold continueVoice
  simp only
  split
  case h_1 => exact start
  case h_2 gvPayload built =>
    exact (generatePacket_lock cfg shared frame frame.callInfo 0x5d gvPayload frame.slotBurst
      (fun reading => clock (12 + reading)) _).trans start

theorem sendHbpTerm_lock (dmr : DmrUtils) (cfg : Config) (frame : HbpFrame) (clock : Clock)
    (shared : Shared) (slot : Slot) :
    (sendHbpTerm dmr cfg frame clock shared slot).1.lock = slot.lock := by
  unfold sendHbpTerm
  exact generatePacket_lock ..

/-- A frame that is let in touches the lock at most by releasing it. -/
theorem HbpOutcome.lock {dmr : DmrUtils} {cfg : Config} {frame : HbpFrame} {draw : RtpDraw}
    {clock : Clock} {shared : Shared} {slot : Slot} {result : Shared × Slot × List Action}
    (outcome : HbpOutcome dmr cfg frame draw clock shared slot result) :
    result.2.1.lock = slot.lock ∨
      ∃ reading, result.2.1.lock = releaseCallLock cfg .hbp (clock reading) slot.lock := by
  cases outcome with
  | foreignTerm | headMerged | voiceIgnored => exact .inl rfl
  | headOpened opened head fresh waits recorded =>
      subst recorded
      exact .inl rfl
  | headStarted opened head fresh atOnce recorded =>
      subst recorded
      exact .inl (emitHbpIpscStart_lock ..)
  | endedSilent => exact .inr ⟨2, rfl⟩
  | ended =>
      refine .inr ⟨4, ?_⟩
      change releaseCallLock cfg .hbp (clock 4) (sendHbpTerm dmr cfg frame clock shared slot).1.lock = _
      rw [sendHbpTerm_lock]
  | voiceContinued => exact .inl (continueVoice_lock ..)
  | voiceOpened opened notHead notTerm closed flow recorded =>
      subst recorded
      exact .inl (continueVoice_lock ..)

/-- A drain touches at most the hang time of the lock. -/
theorem DrainOutcome.lock {cfg : Config} {clock : Clock} {slot after : Slot}
    {actions : List Action} (outcome : DrainOutcome cfg clock slot after actions) :
    ∃ lockUntil, after.lock = { slot.lock with lockUntil := lockUntil } := by
  cases outcome with
  | empty lockUntil => exact ⟨lockUntil, rfl⟩
  | taken entry rest sent actions handle nextAt lockUntil first passed =>
      refine ⟨lockUntil, ?_⟩
      change { sent.lock with lockUntil := lockUntil } = _
      rw [passed.lock]

/-- A timeout touches at most the hang time of the lock. -/
theorem checkCallTimeouts_lock (cfg : Config) (timeout : Time) (clock : Clock) (ts : Timeslot)
    (slot : Slot) : ∃ lockUntil, (checkCallTimeouts cfg timeout clock ts slot).lock =
      { slot.lock with lockUntil := lockUntil } := by
  have out : ∃ lockUntil, (checkOutTimeout cfg timeout (clock 0) (clock (timeoutReading ts)) slot).lock =
      { slot.lock with lockUntil := lockUntil } := by
    unfold checkOutTimeout
    split
    case isTrue => exact releaseCallLock_frame ..
    case isFalse => exact ⟨slot.lock.lockUntil, rfl⟩
  obtain ⟨lockUntil, released⟩ := out
  unfold checkCallTimeouts checkInTimeout
  split
  case isTrue =>
    obtain ⟨again, ended⟩ := releaseCallLock_frame cfg .hbp (clock (timeoutReading ts + 1))
      (checkOutTimeout cfg timeout (clock 0) (clock (timeoutReading ts)) slot).lock
    refine ⟨again, ended.trans ?_⟩
    rw [released]
  case isFalse => exact ⟨lockUntil, released⟩

end Ipsc2Hbp
