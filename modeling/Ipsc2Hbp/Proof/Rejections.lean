import Ipsc2Hbp.Construction.DmrCodec
import Ipsc2Hbp.Construction.Packets
import Ipsc2Hbp.Proof.LockTest
import Mathlib.Data.List.Chain

namespace Ipsc2Hbp
open BigEndian

/-- Pruning keeps the streams whose expiry lies ahead. -/
theorem CallLock.blocked_prune (lock : CallLock) (now : Time) (key : StreamKey) :
    (lock.prune now).blocked key = (lock.blocked key).filter fun expiry => now < expiry := by
  rcases key with (_ | streamByte) | stream <;> rfl

theorem CallLock.blocked_clear (lock : CallLock) (key : StreamKey) :
    lock.clear.blocked key = lock.blocked key := by
  rcases key with (_ | streamByte) | stream <;> rfl

theorem CallLock.blocked_lockUntil (lock : CallLock) (lockUntil : Time) (key : StreamKey) :
    ({ lock with lockUntil := lockUntil } : CallLock).blocked key = lock.blocked key := by
  rcases key with (_ | streamByte) | stream <;> rfl

theorem CallLock.blocked_acquire (cfg : Config) (direction : Direction) (srcSub dstGroup : Bytes)
    (lock : CallLock) (key : StreamKey) :
    (acquireCallLock cfg direction srcSub dstGroup lock).blocked key = lock.blocked key := by
  unfold acquireCallLock
  split
  case isTrue => rcases key with (_ | streamByte) | stream <;> rfl
  case isFalse => rfl

theorem CallLock.blocked_release (cfg : Config) (direction : Direction) (now : Time)
    (lock : CallLock) (key : StreamKey) :
    (releaseCallLock cfg direction now lock).blocked key = lock.blocked key := by
  obtain ⟨lockUntil, released⟩ := releaseCallLock_frame cfg direction now lock
  rw [released, CallLock.blocked_lockUntil]

/-- Only a packet without a stream byte has no entry of its own. -/
theorem CallLock.blocked_setBlocked (lock : CallLock) {key : StreamKey} (named : key ≠ .ipsc none)
    (expiry : Option Time) : (lock.setBlocked key expiry).blocked key = expiry := by
  rcases key with (_ | streamByte) | stream
  · exact absurd rfl named
  · exact Function.update_self ..
  · exact Function.update_self ..

/-- An entry of one stream leaves the other streams alone. -/
theorem CallLock.blocked_setBlocked_of_ne (lock : CallLock) {key other : StreamKey}
    (apart : other ≠ key) (expiry : Option Time) :
    (lock.setBlocked key expiry).blocked other = lock.blocked other := by
  rcases key with (_ | streamByte) | stream
  · rfl
  · rcases other with (_ | otherByte) | otherStream
    · rfl
    · have differ : otherByte ≠ streamByte := fun same => apart (by rw [same])
      exact Function.update_of_ne differ _ _
    · rfl
  · rcases other with (_ | otherByte) | otherStream
    · rfl
    · rfl
    · have differ : otherStream ≠ stream := fun same => apart (by rw [same])
      exact Function.update_of_ne differ _ _

/-- The lock that a packet leaves, read at one stream: the packet's own test may write the entry. -/
theorem callLockBlocks_blocked {cfg : Config} (enabled : cfg.ipscCallLock = true) (slot : Slot)
    (key other : StreamKey) (srcSub dstGroup : Bytes) (isEnd : Bool) (now : Time) :
    let answer := callLockBlocks cfg slot key srcSub dstGroup isEnd now
    answer.2.lock.blocked other =
      if answer.1 then
        ((slot.lock.prune now).setBlocked key (if ((slot.lock.prune now).blocked key).isSome && isEnd
          then none else some (now + cfg.blockFor))).blocked other
      else (slot.lock.prune now).blocked other := by
  intro answer
  change (callLockBlocks cfg slot key srcSub dstGroup isEnd now).2.lock.blocked other =
    if (callLockBlocks cfg slot key srcSub dstGroup isEnd now).1 then _ else _
  unfold callLockBlocks
  rw [enabled]
  simp only [Bool.not_true, Bool.false_eq_true, if_false]
  cases known : ((slot.lock.prune now).blocked key).isSome with
  | true => simp only [if_true, Bool.true_and]
  | false =>
      simp only [Bool.false_eq_true, if_false, Bool.false_and]
      -- an owner that is over is forgotten without touching the rejected streams
      have cleared : ∃ held, (if (slot.lock.prune now).owner.isSome &&
            !callLockIsActive { slot with lock := slot.lock.prune now } now then
            { slot with lock := (slot.lock.prune now).clear }
          else { slot with lock := slot.lock.prune now }) = { slot with lock := held } ∧
          (∀ third, held.blocked third = (slot.lock.prune now).blocked third) ∧
          (held.owner.isSome = true → held = slot.lock.prune now) := by
        split
        case isTrue => exact ⟨_, rfl, CallLock.blocked_clear _, fun absurd => nomatch absurd⟩
        case isFalse => exact ⟨_, rfl, fun _ => rfl, fun _ => rfl⟩
      obtain ⟨held, recorded, same, owned⟩ := cleared
      rw [recorded]
      cases owner : held.owner with
      | none =>
          simp only [Bool.false_eq_true, if_false]
          rw [CallLock.blocked_acquire, same]
      | some direction =>
          simp only
          split
          case isTrue => simp only [Bool.false_eq_true, if_false, same]
          case isFalse =>
            split
            case isTrue => simp only [Bool.false_eq_true, if_false, same]
            case isFalse =>
              rw [owned (by rw [owner]; rfl)]
              simp only [if_true]

/-- The state in which the lock is asked has the tables and the queue of the timeslot. -/
theorem SlotEvent.asked_frame (cfg : Config) (slot : Slot) (part : SlotEvent) :
    (∀ key, (part.asked cfg slot).lock.blocked key = slot.lock.blocked key) ∧
      (part.asked cfg slot).tx = slot.tx := by
  cases part with
  | ipscVoice connected data burstType urandom clock =>
      obtain ⟨outCall, lockUntil, framed, -⟩ := legacyPrelude_frame cfg data burstType clock slot
      simp only [asked, framed]
      exact ⟨CallLock.blocked_lockUntil _ _, trivial⟩
  | hbpFrame | drain | checkCallTimeouts | peerLost | hbpDisconnected => exact ⟨fun _ => rfl, rfl⟩

/-- A callback that hands no packet to the lock keeps the rejected streams. -/
theorem slotStep_untested (dmr : DmrUtils) (cfg : Config) (ts : Timeslot) (shared : Shared)
    (slot : Slot) {part : SlotEvent} (silent : part.lockPacket = none) (kept : part ≠ .peerLost)
    (key : StreamKey) :
    (slotStep dmr cfg ts shared slot part).2.1.lock.blocked key = slot.lock.blocked key := by
  cases part with
  | ipscVoice connected data burstType urandom clock =>
      cases connected with
      | false => rfl
      | true => cases silent
  | hbpFrame => cases silent
  | drain clock =>
      obtain ⟨lockUntil, drained⟩ := (drainHbpToIpscQueue_cases cfg clock slot).lock
      simp only [slotStep, drained, CallLock.blocked_lockUntil]
  | checkCallTimeouts timeout clock =>
      obtain ⟨lockUntil, checked⟩ := checkCallTimeouts_lock cfg timeout clock ts slot
      simp only [slotStep, checked, CallLock.blocked_lockUntil]
  | peerLost => exact absurd rfl kept
  | hbpDisconnected => rfl

/-- The ways in which a callback that hands a packet to the lock goes on: the legacy stream test drops
the packet, the lock rejects it, or the lock lets it in and the rejected streams stay. -/
inductive PacketTested (cfg : Config) (shared : Shared) (slot : Slot) (part : SlotEvent)
    (packet : LockPacket) : Shared × Slot × List Action → Prop
  | stale (legacy : cfg.legacyFlow = true) :
      PacketTested cfg shared slot part packet (shared, part.asked cfg slot, [])
  | rejected (blocked : (packet.test cfg (part.asked cfg slot)).1 = true) :
      PacketTested cfg shared slot part packet
        (shared, (packet.test cfg (part.asked cfg slot)).2, [])
  | admitted (result : Shared × Slot × List Action)
      (letIn : (packet.test cfg (part.asked cfg slot)).1 = false)
      (lock : ∀ key, result.2.1.lock.blocked key =
        (packet.test cfg (part.asked cfg slot)).2.lock.blocked key) :
      PacketTested cfg shared slot part packet result

theorem slotStep_packetTested (dmr : DmrUtils) (cfg : Config) (ts : Timeslot) (shared : Shared)
    (slot : Slot) {part : SlotEvent} {packet : LockPacket} (handed : part.lockPacket = some packet) :
    PacketTested cfg shared slot part packet (slotStep dmr cfg ts shared slot part) := by
  cases part with
  | drain | checkCallTimeouts | peerLost | hbpDisconnected => cases handed
  | hbpFrame frame draw clock =>
      obtain rfl := Option.some.inj handed
      rcases hbpFrameReceived_tested dmr cfg frame draw clock shared slot with
        ⟨blocked, dropped⟩ | ⟨admitted, outcome⟩
      · rw [show slotStep dmr cfg ts shared slot (.hbpFrame frame draw clock) = _ from dropped]
        exact .rejected blocked
      · refine .admitted _ admitted fun key => ?_
        rcases outcome.lock with same | ⟨reading, released⟩
        · exact congrArg (·.blocked key) same
        · exact (congrArg (·.blocked key) released).trans (CallLock.blocked_release ..)
  | ipscVoice connected data burstType urandom clock =>
      simp only [SlotEvent.lockPacket, Option.ite_none_right_eq_some] at handed
      obtain ⟨rfl, named⟩ := handed
      obtain rfl := Option.some.inj named
      have tested := ipscVoiceReceived_tested dmr cfg data ts burstType urandom clock shared slot
      change PacketTested cfg shared slot _ _
        (ipscVoiceReceived dmr cfg true data ts burstType urandom clock shared slot)
      generalize ipscVoiceReceived dmr cfg true data ts burstType urandom clock shared slot = received
        at tested ⊢
      cases tested with
      | stale legacy => exact .stale legacy
      | rejected after decided =>
          have left : _ = after := congrArg Prod.snd decided
          rw [← left]
          exact .rejected (congrArg Prod.fst decided)
      | admitted before received decided lock =>
          have left : _ = before := congrArg Prod.snd decided
          refine .admitted received (congrArg Prod.fst decided) fun key => ?_
          rcases lock with same | released
          · rw [same, ← left]
            rfl
          · rw [released, CallLock.blocked_release, ← left]
            rfl

/-- In the packet flow a packet leaves the rejected streams that its test leaves, and a rejected
packet does nothing else. -/
theorem slotStep_tested (dmr : DmrUtils) {cfg : Config} (packetFlow : cfg.legacyFlow = false)
    (ts : Timeslot) (shared : Shared) (slot : Slot) {part : SlotEvent} {packet : LockPacket}
    (handed : part.lockPacket = some packet) :
    let answer := packet.test cfg (part.asked cfg slot)
    let result := slotStep dmr cfg ts shared slot part
    (∀ key, result.2.1.lock.blocked key = answer.2.lock.blocked key) ∧
      (answer.1 = true → result = (shared, answer.2, [])) := by
  intro answer result
  have tested : PacketTested cfg shared slot part packet result :=
    slotStep_packetTested dmr cfg ts shared slot handed
  generalize result = reached at tested
  cases tested with
  | stale legacy => exact absurd (packetFlow.symm.trans legacy) Bool.false_ne_true
  | rejected => exact ⟨fun _ => rfl, fun _ => rfl⟩
  | admitted reached letIn lock =>
      exact ⟨lock, fun blocked => absurd (letIn.symm.trans blocked) Bool.false_ne_true⟩

/-- The arrivals of a stream at the lock of the timeslot. -/
def arrivals (ts : Timeslot) (key : StreamKey) (events : List Event) : List Time :=
  events.filterMap fun event =>
    (event.lockPacket ts).bind fun packet => if packet.key = key then some packet.now else none

/-- The stream's entry lasts from its last packet for the blocking time, if no packet was tested
later than that. -/
def StaysRejected (cfg : Config) (key : StreamKey) (last now : Time) (slot : Slot) : Prop :=
  now < last + cfg.blockFor → slot.lock.blocked key = some (last + cfg.blockFor)

/-- A packet in time meets its entry. -/
theorem StaysRejected.meets {cfg : Config} (enabled : cfg.ipscCallLock = true) {last now : Time}
    {slot : Slot} {part : SlotEvent} {packet : LockPacket}
    (stays : StaysRejected cfg packet.key last now slot) (handed : part.lockPacket = some packet)
    (after : now ≤ packet.now) (inTime : packet.now - last < cfg.blockFor) :
    part.Rejected cfg slot := by
  refine ⟨packet, handed, ?_⟩
  have ahead : packet.now < last + cfg.blockFor := sub_lt_iff_lt_add'.mp inTime
  have entry := stays (lt_of_le_of_lt after ahead)
  have known : (((part.asked cfg slot).lock.prune packet.now).blocked packet.key).isSome = true := by
    rw [CallLock.blocked_prune, (part.asked_frame cfg slot).1, entry]
    simp [ahead]
  unfold LockPacket.test callLockBlocks
  simp only [enabled, Bool.not_true, Bool.false_eq_true, if_false, known, if_true]

/-- A rejected packet that is no terminator renews its entry. -/
theorem staysRejected_renewed {dmr : DmrUtils} {cfg : Config} (enabled : cfg.ipscCallLock = true)
    (packetFlow : cfg.legacyFlow = false) (ts : Timeslot) (shared : Shared) {slot : Slot}
    {part : SlotEvent} {packet : LockPacket} (handed : part.lockPacket = some packet)
    (named : packet.key ≠ .ipsc none) (unended : packet.isEnd = false)
    (rejected : part.Rejected cfg slot) :
    StaysRejected cfg packet.key packet.now packet.now
      (slotStep dmr cfg ts shared slot part).2.1 := by
  intro _
  obtain ⟨other, member, blocked⟩ := rejected
  obtain rfl := Option.some.inj (handed.symm.trans member)
  rw [(slotStep_tested dmr packetFlow ts shared slot handed).1]
  have left := callLockBlocks_blocked enabled (part.asked cfg slot) packet.key packet.key
    packet.srcSub packet.dstGroup packet.isEnd packet.now
  refine left.trans ((if_pos blocked).trans ?_)
  rw [unended, Bool.and_false, CallLock.blocked_setBlocked _ named]
  rfl

/-- A packet of another stream does not shorten the entry. -/
theorem StaysRejected.other {dmr : DmrUtils} {cfg : Config} (enabled : cfg.ipscCallLock = true)
    (packetFlow : cfg.legacyFlow = false) (ts : Timeslot) (shared : Shared) {key : StreamKey}
    {last now : Time} {slot : Slot} {part : SlotEvent} {packet : LockPacket}
    (stays : StaysRejected cfg key last now slot) (handed : part.lockPacket = some packet)
    (apart : packet.key ≠ key) (after : now ≤ packet.now) :
    StaysRejected cfg key last packet.now (slotStep dmr cfg ts shared slot part).2.1 := by
  intro ahead
  have entry := stays (lt_of_le_of_lt after ahead)
  have pruned : ((part.asked cfg slot).lock.prune packet.now).blocked key =
      some (last + cfg.blockFor) := by
    rw [CallLock.blocked_prune, (part.asked_frame cfg slot).1, entry]
    simp [ahead]
  rw [(slotStep_tested dmr packetFlow ts shared slot handed).1]
  have left := callLockBlocks_blocked enabled (part.asked cfg slot) packet.key key
    packet.srcSub packet.dstGroup packet.isEnd packet.now
  refine left.trans ?_
  split
  case isTrue => rw [CallLock.blocked_setBlocked_of_ne _ apart.symm, pruned]
  case isFalse => exact pruned

/-- A rejected packet changes at most the lock after the state in which the lock was asked. -/
theorem SlotEvent.Rejected.slotStep_eq {cfg : Config} {slot : Slot} {part : SlotEvent}
    (rejected : part.Rejected cfg slot) (dmr : DmrUtils) (ts : Timeslot) (shared : Shared) :
    ∃ lock, slotStep dmr cfg ts shared slot part =
      (shared, { part.asked cfg slot with lock := lock }, []) := by
  obtain ⟨packet, handed, blocked⟩ := rejected
  have tested := slotStep_packetTested dmr cfg ts shared slot handed
  generalize slotStep dmr cfg ts shared slot part = result at tested ⊢
  cases tested with
  | stale => exact ⟨(part.asked cfg slot).lock, rfl⟩
  | rejected =>
      obtain ⟨answered, lock, decided, -⟩ := callLockBlocks_verdict cfg (part.asked cfg slot)
        packet.key packet.srcSub packet.dstGroup packet.isEnd packet.now
      have left : (packet.test cfg (part.asked cfg slot)).2 =
          { part.asked cfg slot with lock := lock } := congrArg Prod.snd decided
      exact ⟨lock, by rw [left]⟩
  | admitted result letIn => exact absurd (letIn.symm.trans blocked) Bool.false_ne_true

/-- A callback without effects on its timeslot has none at all when it hands a packet to the lock. -/
theorem Translator.step_silent (dmr : DmrUtils) (cfg : Config) {ts : Timeslot} (tr : Translator)
    {event : Event} {part : SlotEvent} {packet : LockPacket} (seen : event.atSlot ts = some part)
    (handed : part.lockPacket = some packet)
    (silent : (slotStep dmr cfg ts tr.shared (tr.slot ts) part).2.2 = []) :
    (Translator.step dmr cfg tr event).2 = [] := by
  cases Event.atSlot_cases seen with
  | ipscVoice => exact List.map_eq_nil_iff.mpr silent
  | hbpVoice registered dmrd frame draw clock accepted here =>
      subst here
      simp only [Translator.step, hbpVoiceReceived_eq, accepted]
      exact List.map_eq_nil_iff.mpr silent
  | drain | checkCallTimeouts | peerLost | hbpDisconnected => cases handed

/-- A rejected packet is forwarded in no form and joins no queue. -/
theorem Rejected.dropped {cfg : Config} {ts : Timeslot} {tr : Translator} {event : Event}
    (rejected : Rejected cfg ts tr event) (dmr : DmrUtils) :
    (Translator.step dmr cfg tr event).2 = [] ∧
      ((Translator.step dmr cfg tr event).1.slot ts).tx = (tr.slot ts).tx := by
  obtain ⟨part, seen, rejected⟩ := rejected
  obtain ⟨lock, left⟩ := rejected.slotStep_eq dmr ts tr.shared
  obtain ⟨packet, handed, -⟩ := rejected
  constructor
  · apply Translator.step_silent dmr cfg tr seen handed
    rw [left]
  · rw [(Translator.step_seen dmr cfg tr seen).1, left]
    exact (part.asked_frame cfg (tr.slot ts)).2

/-- Only the loss of the peer clears the call locks. -/
theorem Event.atSlot_peerLost {ts : Timeslot} {event : Event}
    (seen : event.atSlot ts = some .peerLost) : event = .peerLost := by
  cases Event.atSlot_cases seen with
  | peerLost => rfl

/-- The time at which a callback hands a packet to the lock of the timeslot. -/
def Event.lockReading (ts : Timeslot) (event : Event) : Option Time :=
  (event.lockPacket ts).map LockPacket.now

/-- The time at which it hands a packet of the stream to the lock. -/
def Event.arrival (ts : Timeslot) (key : StreamKey) (event : Event) : Option Time :=
  (event.lockPacket ts).bind fun packet => if packet.key = key then some packet.now else none

theorem Event.of_arrival {ts : Timeslot} {key : StreamKey} {event : Event} {time : Time}
    (arrives : event.arrival ts key = some time) :
    ∃ packet, event.lockPacket ts = some packet ∧ packet.key = key ∧ packet.now = time := by
  obtain ⟨packet, handed, own⟩ := Option.bind_eq_some_iff.mp arrives
  rw [Option.ite_none_right_eq_some] at own
  exact ⟨packet, handed, own.1, Option.some.inj own.2⟩

theorem Event.arrival_eq {ts : Timeslot} {event : Event} {packet : LockPacket}
    (handed : event.lockPacket ts = some packet) : event.arrival ts packet.key = some packet.now := by
  unfold Event.arrival
  rw [handed, Option.bind_some, if_pos rfl]

theorem Event.lockReading_eq {ts : Timeslot} {event : Event} {packet : LockPacket}
    (handed : event.lockPacket ts = some packet) : event.lockReading ts = some packet.now := by
  rw [Event.lockReading, handed, Option.map_some]

/-- The lock of a timeslot reads the clock forward. -/
theorem ClockForward.lockReadings {events : List Event} (forward : ClockForward events)
    (ts : Timeslot) : (events.filterMap (Event.lockReading ts)).Pairwise (· ≤ ·) := by
  refine List.pairwise_filterMap.mpr ((forward.packets ts).imp fun ordered one first two second => ?_)
  obtain ⟨onePacket, oneHanded, rfl⟩ := Option.map_eq_some_iff.mp first
  obtain ⟨twoPacket, twoHanded, rfl⟩ := Option.map_eq_some_iff.mp second
  exact ordered onePacket oneHanded twoPacket twoHanded

/-- A rejected packet that is no terminator renews the entry of its stream. -/
theorem Rejected.renews (dmr : DmrUtils) {cfg : Config} (enabled : cfg.ipscCallLock = true)
    (packetFlow : cfg.legacyFlow = false) {ts : Timeslot} {tr : Translator} {event : Event}
    {packet : LockPacket} (arrives : event.lockPacket ts = some packet) (named : packet.key ≠ .ipsc none)
    (unended : packet.isEnd = false) (rejected : Rejected cfg ts tr event) :
    StaysRejected cfg packet.key packet.now packet.now ((Translator.step dmr cfg tr event).1.slot ts) := by
  obtain ⟨part, seen, handed⟩ := Option.bind_eq_some_iff.mp arrives
  obtain ⟨other, member, blocked⟩ := rejected
  obtain rfl := Option.some.inj (seen.symm.trans member)
  rw [(Translator.step_seen dmr cfg tr seen).1]
  exact staysRejected_renewed enabled packetFlow ts tr.shared handed named unended blocked

/-- Every other callback that does not lose the peer keeps the entry. -/
theorem StaysRejected.passed (dmr : DmrUtils) {cfg : Config} (enabled : cfg.ipscCallLock = true)
    (packetFlow : cfg.legacyFlow = false) {ts : Timeslot} {key : StreamKey} {event : Event}
    (kept : event ≠ .peerLost) (apart : event.arrival ts key = none) {last now : Time}
    {tr : Translator} (stays : StaysRejected cfg key last now (tr.slot ts))
    (after : ∀ time ∈ event.lockReading ts, now ≤ time) :
    StaysRejected cfg key last ((event.lockReading ts).getD now)
      ((Translator.step dmr cfg tr event).1.slot ts) := by
  cases seen : event.atSlot ts with
  | none =>
      have silent : event.lockReading ts = none := by
        rw [Event.lockReading, Event.lockPacket, seen]
        rfl
      rw [silent, (Translator.step_unseen dmr cfg tr seen).1]
      exact stays
  | some part =>
      rw [(Translator.step_seen dmr cfg tr seen).1]
      cases handed : part.lockPacket with
      | none =>
          have silent : event.lockReading ts = none := by
            rw [Event.lockReading, Event.lockPacket, seen, Option.bind_some, handed]
            rfl
          have notLost : part ≠ .peerLost := by
            rintro rfl
            exact kept (Event.atSlot_peerLost seen)
          rw [silent]
          intro ahead
          rw [slotStep_untested dmr cfg ts tr.shared (tr.slot ts) handed notLost]
          exact stays ahead
      | some packet =>
          have arrives : event.lockPacket ts = some packet := by
            rw [Event.lockPacket, seen, Option.bind_some, handed]
          have read := Event.lockReading_eq arrives
          have other : packet.key ≠ key := by
            rintro rfl
            rw [Event.arrival_eq arrives] at apart
            cases apart
          rw [read]
          exact stays.other enabled packetFlow ts tr.shared handed other (after packet.now read)

/-- A packet of the stream in time is rejected. -/
theorem StaysRejected.rejected {cfg : Config} (enabled : cfg.ipscCallLock = true) {ts : Timeslot}
    {event : Event} {packet : LockPacket} (arrives : event.lockPacket ts = some packet)
    {last now : Time} {tr : Translator} (stays : StaysRejected cfg packet.key last now (tr.slot ts))
    (after : now ≤ packet.now) (inTime : packet.now - last < cfg.blockFor) :
    Rejected cfg ts tr event := by
  obtain ⟨part, seen, handed⟩ := Option.bind_eq_some_iff.mp arrives
  exact ⟨part, seen, stays.meets enabled handed after inTime⟩

/-- A stream that is kept rejected is still so at a packet in time. -/
theorem run_stays_rejected (dmr : DmrUtils) {cfg : Config} (enabled : cfg.ipscCallLock = true)
    (packetFlow : cfg.legacyFlow = false) {ts : Timeslot} {key : StreamKey} (named : key ≠ .ipsc none)
    {events : List Event} (kept : ∀ event ∈ events, event ≠ .peerLost ∧
      ∀ packet ∈ event.lockPacket ts, packet.key = key → packet.isEnd = false)
    {last now time : Time}
    (ordered : List.Pairwise (· ≤ ·) (now :: (events.filterMap (Event.lockReading ts) ++ [time])))
    (steady : List.IsChain (fun one two => two - one < cfg.blockFor)
      (last :: (events.filterMap (Event.arrival ts key) ++ [time])))
    {tr : Translator} (stays : StaysRejected cfg key last now (tr.slot ts)) :
    ∃ last now, StaysRejected cfg key last now (((translator dmr cfg).run tr events).1.slot ts) ∧
      now ≤ time ∧ time - last < cfg.blockFor := by
  have admitted := ((translator dmr cfg).meets_of_forall (fun _ _ _ => True) (fun _ _ _ => trivial) []
    tr events).and_events kept
  refine admitted.renewed _ (fun last now tr => StaysRejected cfg key last now (tr.slot ts)) ?_ ?_ ?_
    ordered steady stays
  · intro event time own
    obtain ⟨packet, handed, -, rfl⟩ := Event.of_arrival own
    exact Event.lockReading_eq handed
  · intro _ tr event last now time keeps own stays after inTime
    obtain ⟨packet, handed, rfl, rfl⟩ := Event.of_arrival own
    have rejected := stays.rejected enabled handed after inTime
    exact rejected.renews dmr enabled packetFlow handed named (keeps.2.2 packet handed rfl)
  · intro _ tr event last now keeps other stays after
    exact stays.passed dmr enabled packetFlow keeps.2.1 other after

/-- In the packet flow with the call lock on, once the lock rejects a packet of a stream that is no
terminator, it rejects every packet of the stream through its first terminator, and nothing is
forwarded for them, in every continuation without a loss of the peer in which the clock never goes
back and each packet of the stream arrives within the blocking time of the one before. -/
theorem rejected_through_terminator (dmr : DmrUtils) (cfg : Config)
    (enabled : cfg.ipscCallLock = true) (packetFlow : cfg.legacyFlow = false) (ts : Timeslot)
    (before : List Event) {first : Event} {packet : LockPacket}
    (arrived : first.lockPacket ts = some packet) (named : packet.key ≠ .ipsc none)
    (open' : packet.isEnd = false)
    (rejected : Rejected cfg ts ((translator dmr cfg).run Translator.initial before).1 first)
    {rest : List Event} (registered : ∀ event ∈ rest, event ≠ .peerLost)
    (forward : ClockForward (first :: rest))
    (steady : List.IsChain (fun one two => two - one < cfg.blockFor)
      (packet.now :: arrivals ts packet.key rest))
    {earlier later : List Event} {event : Event} {next : LockPacket}
    (split : rest = earlier ++ event :: later) (arrives : event.lockPacket ts = some next)
    (same : next.key = packet.key)
    (unended : ∀ other ∈ earlier, ∀ third ∈ other.lockPacket ts, third.key = packet.key →
      third.isEnd = false) :
    let state := ((translator dmr cfg).run Translator.initial (before ++ first :: earlier)).1
    Rejected cfg ts state event ∧ (Translator.step dmr cfg state event).2 = [] ∧
      ((Translator.step dmr cfg state event).1.slot ts).tx = (state.slot ts).tx := by
  intro state
  have cut (reads : Event → Option Time) (one : reads first = some packet.now)
      (two : reads event = some next.now) : (first :: rest).filterMap reads =
        packet.now :: (earlier.filterMap reads ++ [next.now]) ++ later.filterMap reads := by
    rw [split, List.filterMap_cons_some one, List.filterMap_append, List.filterMap_cons_some two]
    simp
  have ordered := forward.lockReadings ts
  rw [cut _ (Event.lockReading_eq arrived) (Event.lockReading_eq arrives)] at ordered
  have chain : List.IsChain (fun one two => two - one < cfg.blockFor)
      ((first :: rest).filterMap (Event.arrival ts packet.key)) := by
    rw [List.filterMap_cons_some (Event.arrival_eq arrived)]
    exact steady
  rw [cut _ (Event.arrival_eq arrived) (same ▸ Event.arrival_eq arrives)] at chain
  obtain ⟨last, now, stays, after, inTime⟩ := run_stays_rejected dmr enabled packetFlow named
    (fun other member => ⟨registered other (split ▸ List.mem_append_left _ member),
      unended other member⟩)
    (List.pairwise_append.mp ordered).1 chain.left_of_append
    (rejected.renews dmr enabled packetFlow arrived named open')
  have reached : ((translator dmr cfg).run (Translator.step dmr cfg
      ((translator dmr cfg).run Translator.initial before).1 first).1 earlier).1 = state := by
    change _ = ((translator dmr cfg).run Translator.initial (before ++ first :: earlier)).1
    rw [Mealy.run_append, Mealy.run_cons]
    rfl
  rw [reached, ← same] at stays
  have dropped := stays.rejected enabled arrives after inTime
  exact ⟨dropped, dropped.dropped dmr⟩

/-- The master's header for talkgroup 2 takes the lock of timeslot 1. -/
def masterFirst : List Event :=
  [.hbpVoice true (masterHead dmrCodec [1, 1, 1, 1] [0, 0, 7] [0, 0, 2]) rtpDraw fun _ => 100]

/-- A repeater's header for the same talkgroup. -/
def lateHeader : Event :=
  .ipscVoice true (peerHead dmrCodec 5 [0, 0, 9] [0, 0, 2]) .ts1 voiceHead firstDraw
    fun _ => 101

/-- The repeater's call goes on while the master's connection is lost. -/
def lateCall : List Event :=
  [.hbpDisconnected,
    .ipscVoice true (peerVoice 5 [0, 0, 9] [0, 0, 2] (List.replicate 19 0)) .ts1 slot1Voice
      firstDraw fun _ => 102]

/-- The repeater's terminator. -/
def lateTerminator : Event :=
  .ipscVoice true (peerTerm dmrCodec 5 [0, 0, 9] [0, 0, 2]) .ts1 voiceTerm firstDraw
    fun _ => 103

/-- The repeater's call is rejected to its end although the master's call is gone. -/
theorem rejected_through_terminator_disconnect :
    Rejected {} .ts1 ((translator dmrCodec {}).run Translator.initial
      (masterFirst ++ lateHeader :: lateCall)).1 lateTerminator := by
  have rejected : Rejected {} .ts1 ((translator dmrCodec {}).run Translator.initial masterFirst).1
      lateHeader :=
    ⟨_, rfl, _, rfl, by decide +kernel⟩
  have forward : ClockForward (lateHeader :: (lateCall ++ [lateTerminator])) := by
    constructor
    · simp [lateHeader, lateCall, lateTerminator, Event.clock, monotone_const]
    · simp [lateHeader, lateCall, lateTerminator, Event.clock]
      decide +kernel
  have arrived : lateHeader.lockPacket .ts1 = some
      (ipscLockPacket (peerHead dmrCodec 5 [0, 0, 9] [0, 0, 2]) voiceHead fun _ => 101) := rfl
  have split : lateCall ++ [lateTerminator] = lateCall ++ lateTerminator :: [] := rfl
  have law := rejected_through_terminator dmrCodec {} rfl rfl .ts1 masterFirst arrived (by decide)
    (by decide) rejected (by simp [lateCall, lateTerminator]) forward (by decide +kernel) split rfl rfl
    (by decide +kernel)
  exact law.1

end Ipsc2Hbp
