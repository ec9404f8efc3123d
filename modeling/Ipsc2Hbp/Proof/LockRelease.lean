import Ipsc2Hbp.Construction.DmrCodec
import Ipsc2Hbp.Construction.Packets
import Ipsc2Hbp.Proof.LockHold
import Ipsc2Hbp.Proof.Rejections

namespace Ipsc2Hbp
open BigEndian

/-- A packet that does not take the lock for its direction leaves the hold. -/
theorem LockVerdict.hold_of_owner_ne {cfg : Config} {slot : Slot} {key : StreamKey} {dstGroup : Bytes}
    {now : Time} {blocked : Bool} {lock : CallLock}
    (verdict : LockVerdict cfg slot key dstGroup now blocked lock)
    (other : lock.owner ≠ some key.direction) : lock.SameHold slot.lock := by
  cases verdict with
  | off => exact .refl _
  | rejected lock same | continued lock fresh same | otherGroup lock fresh same
  | collision lock same => exact same
  | acquired lock fresh free owner => exact absurd owner other

/-- The legacy stream test keeps the owner of the lock. -/
theorem legacyPrelude_owner (cfg : Config) (data : Bytes) (burstType : UInt8) (clock : Clock)
    (slot : Slot) :
    (legacyPrelude cfg data burstType clock slot).2.lock.owner = slot.lock.owner := by
  obtain ⟨outCall, lockUntil, framed, -⟩ := legacyPrelude_frame cfg data burstType clock slot
  rw [framed]

/-- The lock that HBP owns after an IPSC packet is the lock that it held before. -/
theorem ipscVoiceReceived_owned (dmr : DmrUtils) (cfg : Config) (connected : Bool) (data : Bytes)
    (ts : Timeslot) (burstType : UInt8) (urandom : StreamId) (clock : Clock) (shared : Shared)
    (slot : Slot) :
    let after :=
      (ipscVoiceReceived dmr cfg connected data ts burstType urandom clock shared slot).2.1
    after.lock.owner = some .hbp → after.lock.SameHold slot.lock := by
  intro after owned
  cases connected with
  | false => exact .refl _
  | true =>
      -- the stream test can only release a lock that IPSC owns
      have prelude : slot.lock.owner = some .hbp →
          (legacyPrelude cfg data burstType clock slot).2.lock = slot.lock := fun held => by
        have notIpsc : slot.lock.owner ≠ some .ipsc := by rw [held]; decide
        obtain ⟨outCall, framed⟩ := legacyPrelude_held cfg data burstType clock notIpsc
        rw [framed]
      have owner := legacyPrelude_owner cfg data burstType clock slot
      obtain ⟨blocked, lock, decided, verdict⟩ := callLockBlocks_verdict cfg
        (legacyPrelude cfg data burstType clock slot).2 (.ipsc data[gvIpscSeqOff]?) (gvSrcSub data)
        (gvDstGroup data) (burstType = voiceTerm) (clock 2)
      have answered : (ipscLockPacket data burstType clock).test cfg
          (legacyPrelude cfg data burstType clock slot).2 =
            (blocked, { (legacyPrelude cfg data burstType clock slot).2 with lock := lock }) := decided
      have kept : lock.owner = some .hbp → lock.SameHold slot.lock := fun held => by
        have notIpsc : some Direction.hbp ≠ some Direction.ipsc := by decide
        have same := verdict.hold_of_owner_ne (by rw [held]; exact notIpsc)
        rwa [prelude (owner.symm.trans (same.owner.symm.trans held))] at same
      have tested := ipscVoiceReceived_tested dmr cfg data ts burstType urandom clock shared slot
      generalize found : ipscVoiceReceived dmr cfg true data ts burstType urandom clock shared slot =
        result at tested
      have afterIs : after = result.2.1 := congrArg (·.2.1) found
      rw [afterIs] at owned ⊢
      cases tested with
      | stale =>
          rw [prelude (owner.symm.trans owned)]
          exact .refl _
      | rejected after answer =>
          obtain ⟨-, rfl⟩ := Prod.mk.inj (answered.symm.trans answer)
          exact kept owned
      | admitted before result answer released =>
          obtain ⟨-, rfl⟩ := Prod.mk.inj (answered.symm.trans answer)
          rcases released with unchanged | ended
          · rw [unchanged] at owned ⊢
            exact kept owned
          · have held : lock.owner = some .hbp := by
              rw [← releaseCallLock_owner cfg .ipsc (clock 5) lock]
              exact (congrArg CallLock.owner ended).symm.trans owned
            rw [ended]
            change (releaseCallLock cfg .ipsc (clock 5) lock).SameHold slot.lock
            rw [releaseCallLock_of_other (by rw [held]; decide)]
            exact kept held

/-- The HBP direction is quiet, and a lock that it still holds lapses with the hang time. -/
structure Lapses (cfg : Config) (slot : Slot) (started : Option Time) : Prop where
  quiet : ¬ HbpBusy slot
  hang : slot.lock.owner = some .hbp → ∀ time ∈ started, slot.lock.lockUntil = time + cfg.hang

/-- A quiet hold lapses. -/
theorem HoldsFor.lapses {cfg : Config} {group : Bytes} {slot : Slot} {started : Option Time}
    (holds : HoldsFor cfg group slot started) (quiet : ¬ HbpBusy slot) : Lapses cfg slot started := by
  refine ⟨quiet, fun _ => ?_⟩
  rcases holds.hang with busy | hang
  · exact absurd busy quiet
  · exact hang

/-- A quiet direction has no open call and no packet waiting. -/
theorem quiet_iff (slot : Slot) : ¬ HbpBusy slot ↔
    slot.inCall.lc = none ∧ slot.inCall.started = false ∧ slot.tx.queue = [] := by
  simp [directionActive_hbp]

/-- Without a packet from HBP the hold goes on lapsing. -/
theorem Lapses.slotStep {cfg : Config} {slot : Slot} {started : Option Time}
    (lapses : Lapses cfg slot started) (dmr : DmrUtils) (ts : Timeslot) (shared : Shared)
    {part : SlotEvent} (kept : ¬ part.Resets)
    (silent : ∀ packet ∈ part.lockPacket, packet.key.direction = .ipsc) :
    Lapses cfg (slotStep dmr cfg ts shared slot part).2.1
      ((part.hangStart cfg ts slot).or started) := by
  obtain ⟨closed, unstarted, idle⟩ := (quiet_iff slot).mp lapses.quiet
  cases part with
  | ipscVoice connected data burstType urandom clock =>
      obtain ⟨inCall, tx, -⟩ := ipscVoiceReceived_inbound dmr cfg connected data ts burstType urandom
        clock shared slot
      refine ⟨?_, fun owned => ?_⟩
      · intro busy
        exact lapses.quiet ((directionActive_hbp_congr inCall tx).symm.trans busy)
      · have same := ipscVoiceReceived_owned dmr cfg connected data ts burstType urandom clock shared
          slot owned
        intro time known
        exact same.lockUntil.trans (lapses.hang (same.owner.symm.trans owned) time known)
  | hbpFrame frame draw clock => cases silent _ rfl
  | drain clock =>
      have turn := drainHbpToIpscQueue_turn cfg clock slot
      simp only [SlotEvent.hangStart, idle, Ipsc2Hbp.slotStep]
      generalize (drainHbpToIpscQueue cfg clock slot).1 = after at turn ⊢
      generalize (drainHbpToIpscQueue cfg clock slot).2 = actions at turn
      cases turn with
      | empty after nothing drained =>
          subst drained
          unfold hbpIpscQueueDrained
          split
          case isTrue =>
            refine ⟨(quiet_iff _).mpr ⟨closed, unstarted, idle⟩, fun _ time known => ?_⟩
            obtain rfl := Option.some.inj known
            rfl
          case isFalse other =>
            refine ⟨(quiet_iff _).mpr ⟨closed, unstarted, idle⟩, fun owned => ?_⟩
            have held : slot.lock.owner = some .hbp := owned
            simp [closed, held] at other
      | last entry sent after actions single => rw [idle] at single; cases single
      | more entry next rest sent actions handle several => rw [idle] at several; cases several
  | checkCallTimeouts timeout clock =>
      have late : ¬ (slot.inCall.lc.isSome = true ∧ timeout < clock 0 - slot.inCall.lastPkt) := by
        simp [closed]
      simp only [SlotEvent.hangStart, if_neg late, Option.none_or, Ipsc2Hbp.slotStep]
      obtain ⟨lockUntil, checked⟩ := checkCallTimeouts_lock cfg timeout clock ts slot
      refine ⟨(quiet_iff _).mpr ?_, fun owned => ?_⟩
      · have tx := checkCallTimeouts_tx cfg timeout clock ts slot
        have inCall := (checkCallTimeouts_frame cfg timeout clock ts slot).2
        rw [tx]
        rcases inCall with same | reset
        · rw [same]
          exact ⟨closed, unstarted, idle⟩
        · rw [reset]
          exact ⟨rfl, rfl, idle⟩
      · have held : slot.lock.owner = some .hbp := by
          rw [checked] at owned
          exact owned
        have notIpsc : slot.lock.owner ≠ some .ipsc := by rw [held]; decide
        obtain ⟨outCall, framed⟩ := checkOutTimeout_held cfg timeout (clock 0)
          (clock (timeoutReading ts)) notIpsc
        have same : (checkCallTimeouts cfg timeout clock ts slot).lock = slot.lock := by
          unfold checkCallTimeouts checkInTimeout
          rw [framed, if_neg (by simpa using late)]
        rw [same]
        exact lapses.hang held
  | peerLost | hbpDisconnected => exact absurd trivial kept

/-- After the hang time an IPSC packet of a stream that is not rejected takes the lock. -/
theorem Lapses.admits {cfg : Config} {slot : Slot} {started : Option Time}
    (lapses : Lapses cfg slot started) (dmr : DmrUtils) (enabled : cfg.ipscCallLock = true)
    (ts : Timeslot) (shared : Shared) {data : Bytes} {burstType : UInt8} (urandom : StreamId)
    {clock : Clock} {time : Time} (known : started = some time)
    (late : time + cfg.hang < clock 2)
    (reached : (legacyPrelude cfg data burstType clock slot).1 = false)
    (fresh : ((slot.lock.prune (clock 2)).blocked (.ipsc data[gvIpscSeqOff]?)).isSome = false) :
    ¬ (SlotEvent.ipscVoice true data burstType urandom clock).Rejected cfg slot ∧
      (ipscVoiceReceived dmr cfg true data ts burstType urandom clock shared slot).2.1.lock.owner =
        some .ipsc := by
  have owner := legacyPrelude_owner cfg data burstType clock slot
  have freshAsked : (((legacyPrelude cfg data burstType clock slot).2.lock.prune (clock 2)).blocked
      (.ipsc data[gvIpscSeqOff]?)).isSome = false := by
    have same := (SlotEvent.asked_frame cfg slot
      (.ipscVoice true data burstType urandom clock)).1 (.ipsc data[gvIpscSeqOff]?)
    rw [CallLock.blocked_prune] at fresh ⊢
    rw [show (legacyPrelude cfg data burstType clock slot).2.lock.blocked _ = _ from same]
    exact fresh
  have lapsed : (legacyPrelude cfg data burstType clock slot).2.lock.owner = some .hbp →
      callLockIsActive (legacyPrelude cfg data burstType clock slot).2 (clock 2) = false := by
    intro held
    rw [owner] at held
    have notIpsc : slot.lock.owner ≠ some .ipsc := by rw [held]; decide
    obtain ⟨outCall, framed⟩ := legacyPrelude_held cfg data burstType clock notIpsc
    have idle : directionActive { slot with outCall := outCall } .hbp = false :=
      Bool.eq_false_iff.mpr lapses.quiet
    have passed : ¬ clock 2 ≤ slot.lock.lockUntil := by
      rw [lapses.hang held time known]
      exact not_le.mpr late
    rw [framed]
    simp [callLockIsActive, held, idle, passed]
  obtain ⟨blocked, lock, decided, verdict⟩ := callLockBlocks_verdict cfg
    (legacyPrelude cfg data burstType clock slot).2 (.ipsc data[gvIpscSeqOff]?) (gvSrcSub data)
    (gvDstGroup data) (burstType = voiceTerm) (clock 2)
  have taken : blocked = false ∧ lock.owner = some .ipsc := by
    cases verdict with
    | off disabled =>
        rw [enabled] at disabled
        cases disabled
    | rejected lock same rejected =>
        rw [freshAsked] at rejected
        cases rejected
    | acquired lock fresh free owner => exact ⟨rfl, owner⟩
    | continued lock fresh same owner => exact ⟨rfl, same.owner.trans owner⟩
    | otherGroup lock fresh same owner active | collision lock same owner active =>
        rw [lapsed owner] at active
        cases active
  obtain ⟨rfl, taken⟩ := taken
  have answered : (ipscLockPacket data burstType clock).test cfg
      (legacyPrelude cfg data burstType clock slot).2 =
        (false, { (legacyPrelude cfg data burstType clock slot).2 with lock := lock }) := decided
  constructor
  · rintro ⟨packet, handed, rejected⟩
    obtain rfl := Option.some.inj handed
    exact Bool.false_ne_true ((congrArg Prod.fst answered).symm.trans rejected)
  · have tested := ipscVoiceReceived_tested dmr cfg data ts burstType urandom clock shared slot
    generalize ipscVoiceReceived dmr cfg true data ts burstType urandom clock shared slot = result
      at tested
    cases tested with
    | stale legacy foreign =>
        rw [reached] at foreign
        cases foreign
    | rejected after answer =>
        obtain ⟨letIn, -⟩ := Prod.mk.inj (answered.symm.trans answer)
        cases letIn
    | admitted before result answer released =>
        obtain ⟨-, rfl⟩ := Prod.mk.inj (answered.symm.trans answer)
        rcases released with unchanged | ended
        · rw [unchanged]
          exact taken
        · rw [ended]
          exact (releaseCallLock_owner ..).trans taken

/-- The translator with a ghost variable that records the last start of a hang time. -/
def hangTranslator (dmr : DmrUtils) (cfg : Config) (ts : Timeslot) :
    Mealy (Translator × Option Time) Event Output :=
  (translator dmr cfg).ghost fun started tr event =>
    ((event.atSlot ts).bind (SlotEvent.hangStart cfg ts (tr.slot ts))).or started

/-- The steps of a run that concern the timeslot meet the condition, which reads the state of the
timeslot, the last start of a hang time and the part of the callback. -/
def HangMeets (dmr : DmrUtils) (cfg : Config) (ts : Timeslot)
    (condition : Slot → Option Time → SlotEvent → Prop) (state : Translator × Option Time)
    (events : List Event) : Prop :=
  (hangTranslator dmr cfg ts).Meets
    (fun _ state event => ∀ part ∈ event.atSlot ts, condition (state.1.slot ts) state.2 part)
    [] state events

instance decidableHangMeets (dmr : DmrUtils) (cfg : Config) (ts : Timeslot)
    (condition : Slot → Option Time → SlotEvent → Prop)
    [∀ slot started part, Decidable (condition slot started part)]
    (state : Translator × Option Time) (events : List Event) :
    Decidable (HangMeets dmr cfg ts condition state events) :=
  inferInstanceAs (Decidable ((hangTranslator dmr cfg ts).Meets _ [] state events))

/-- What every admitted step keeps of the timeslot and of the last start, a whole run keeps. -/
theorem hang_run (dmr : DmrUtils) (cfg : Config) (ts : Timeslot)
    (condition : Slot → Option Time → SlotEvent → Prop) (good : SlotEvent → Prop)
    (relation : Slot → Option Time → Prop)
    (kept : ∀ shared slot started part, condition slot started part → good part →
      relation slot started → relation (slotStep dmr cfg ts shared slot part).2.1
        ((part.hangStart cfg ts slot).or started))
    (state : Translator × Option Time) (events : List Event)
    (met : HangMeets dmr cfg ts condition state events)
    (all : ∀ event ∈ events, ∀ part ∈ event.atSlot ts, good part)
    (start : relation (state.1.slot ts) state.2) :
    relation (((hangTranslator dmr cfg ts).run state events).1.1.slot ts)
      ((hangTranslator dmr cfg ts).run state events).1.2 := by
  refine (hangTranslator dmr cfg ts).run_log_invariant _
    (fun _ state => relation (state.1.slot ts) state.2) ?_ [] state events (met.and_events all) start
  intro log state event admitted holds
  change relation ((Translator.step dmr cfg state.1 event).1.slot ts)
    (((event.atSlot ts).bind (SlotEvent.hangStart cfg ts (state.1.slot ts))).or state.2)
  cases seen : event.atSlot ts with
  | none =>
      rw [(Translator.step_unseen dmr cfg state.1 seen).1]
      exact holds
  | some part =>
      rw [(Translator.step_seen dmr cfg state.1 seen).1]
      exact kept state.1.shared _ _ part (admitted.1 part seen) (admitted.2 part seen) holds

/-- A hang time starts at a reading of its callback. -/
theorem SlotEvent.hangStart_clock {cfg : Config} {ts : Timeslot} {slot : Slot} {part : SlotEvent}
    {time : Time} (starts : part.hangStart cfg ts slot = some time) :
    ∃ clock ∈ part.clock, ∃ reading, time = clock reading := by
  cases part with
  | hbpFrame frame draw clock =>
      simp only [hangStart, Option.ite_none_right_eq_some] at starts
      obtain ⟨-, rfl⟩ := starts.imp_right Option.some.inj
      exact ⟨clock, rfl, _, rfl⟩
  | drain clock =>
      simp only [hangStart] at starts
      split at starts
      case h_3 => cases starts
      all_goals
        obtain rfl := Option.some.inj starts
        exact ⟨clock, rfl, _, rfl⟩
  | checkCallTimeouts timeout clock =>
      simp only [hangStart, Option.ite_none_right_eq_some] at starts
      obtain ⟨-, rfl⟩ := starts.imp_right Option.some.inj
      exact ⟨clock, rfl, _, rfl⟩
  | ipscVoice | peerLost | hbpDisconnected => cases starts

/-- The last start of a hang time is a reading of the run's callbacks. -/
theorem hangTranslator_clock (dmr : DmrUtils) (cfg : Config) (ts : Timeslot)
    {state : Translator × Option Time} {events : List Event} {time : Time}
    (starts : ((hangTranslator dmr cfg ts).run state events).1.2 = some time) :
    state.2 = some time ∨
      ∃ event ∈ events, ∃ clock ∈ event.clock, ∃ reading, time = clock reading := by
  induction events generalizing state with
  | nil => exact .inl starts
  | cons event rest ih =>
      rcases ih starts with first | ⟨other, member, reads⟩
      · change ((event.atSlot ts).bind (SlotEvent.hangStart cfg ts (state.1.slot ts))).or state.2 =
          some time at first
        cases found : (event.atSlot ts).bind (SlotEvent.hangStart cfg ts (state.1.slot ts)) with
        | none =>
            rw [found] at first
            exact .inl first
        | some start =>
            rw [found] at first
            obtain rfl := Option.some.inj first
            obtain ⟨part, seen, starts⟩ := Option.bind_eq_some_iff.mp found
            have reads := SlotEvent.hangStart_clock starts
            rw [Event.atSlot_clock seen] at reads
            exact .inr ⟨event, List.mem_cons_self, reads⟩
      · exact .inr ⟨other, List.mem_cons_of_mem _ member, reads⟩

/-- In a run an HBP call takes the lock of a timeslot for a talkgroup, and afterwards neither the peer
nor the connection is lost and the clock never goes back. -/
structure LockedRun (dmr : DmrUtils) (cfg : Config) (ts : Timeslot) (group : Bytes) where
  before : List Event
  acquire : Event
  rest : List Event
  acquires : ∃ part ∈ acquire.atSlot ts,
    Acquires group (((translator dmr cfg).run Translator.initial before).1.slot ts) part
  unbroken : ∀ event ∈ rest, event ≠ .peerLost ∧ event ≠ .hbpDisconnected
  forward : ClockForward (acquire :: rest)

/-- While HBP is connected an IPSC packet for a talkgroup arrives on the timeslot. -/
structure IpscArrival (ts : Timeslot) (group : Bytes) (events : List Event) where
  earlier : List Event
  data : Bytes
  burstType : UInt8
  urandom : StreamId
  clock : Clock
  later : List Event
  split : events = earlier ++ .ipscVoice true data ts burstType urandom clock :: later
  addressed : gvDstGroup data = group

namespace LockedRun
variable {dmr : DmrUtils} {cfg : Config} {ts : Timeslot} {group : Bytes}

/-- The translator some events after the lock was taken. -/
def state (run : LockedRun dmr cfg ts group) (events : List Event) : Translator :=
  ((translator dmr cfg).run Translator.initial (run.before ++ run.acquire :: events)).1

/-- The translator with the last start of a hang time some events after the lock was taken. -/
def hangState (run : LockedRun dmr cfg ts group) (events : List Event) : Translator × Option Time :=
  ((hangTranslator dmr cfg ts).run
    (((translator dmr cfg).run Translator.initial run.before).1, none) (run.acquire :: events)).1

/-- The last start of a hang time since the lock was taken. -/
def hangStart (run : LockedRun dmr cfg ts group) (events : List Event) : Option Time :=
  (run.hangState events).2

/-- Every packet since the lock was taken has arrived while HBP was busy or in the hang time. -/
def Lasts (run : LockedRun dmr cfg ts group) (events : List Event) : Prop :=
  HangMeets dmr cfg ts
    (fun slot started part => ∀ packet ∈ part.lockPacket, InHold cfg slot started packet.now)
    (run.hangState []) events

/-- The arriving packet is rejected by the lock and forwarded in no form. -/
def Drops (run : LockedRun dmr cfg ts group) (arrival : IpscArrival ts group run.rest) : Prop :=
  let event := .ipscVoice true arrival.data ts arrival.burstType arrival.urandom arrival.clock
  Rejected cfg ts (run.state arrival.earlier) event ∧
    (Translator.step dmr cfg (run.state arrival.earlier) event).2 = []

/-- The arriving packet is let in by the lock and leaves it owned by IPSC. -/
def Admits (run : LockedRun dmr cfg ts group) (arrival : IpscArrival ts group run.rest) : Prop :=
  let event := .ipscVoice true arrival.data ts arrival.burstType arrival.urandom arrival.clock
  ¬ Rejected cfg ts (run.state arrival.earlier) event ∧
    ((Translator.step dmr cfg (run.state arrival.earlier) event).1.slot ts).lock.owner = some .ipsc

/-- The arriving packet reaches the lock, which has not rejected its stream. -/
structure Asks (run : LockedRun dmr cfg ts group) (arrival : IpscArrival ts group run.rest) : Prop where
  reached : (legacyPrelude cfg arrival.data arrival.burstType arrival.clock
    ((run.state arrival.earlier).slot ts)).1 = false
  fresh : ((((run.state arrival.earlier).slot ts).lock.prune (arrival.clock 2)).blocked
    (.ipsc arrival.data[gvIpscSeqOff]?)).isSome = false

theorem hangState_fst (run : LockedRun dmr cfg ts group) (events : List Event) :
    (run.hangState events).1 = run.state events := by
  unfold hangState state
  rw [Mealy.run_append]
  exact Mealy.ghost_run ..

theorem hangState_append (run : LockedRun dmr cfg ts group) (first second : List Event) :
    run.hangState (first ++ second) =
      ((hangTranslator dmr cfg ts).run (run.hangState first) second).1 := by
  unfold hangState
  rw [← List.cons_append, Mealy.run_append]

theorem unbroken_at (run : LockedRun dmr cfg ts group) {event : Event} (member : event ∈ run.rest)
    {part : SlotEvent} (seen : event.atSlot ts = some part) : ¬ part.Resets := by
  intro reset
  obtain ⟨registered, connected⟩ := run.unbroken event member
  cases Event.atSlot_cases seen with
  | peerLost => exact registered rfl
  | hbpDisconnected => exact connected rfl
  | ipscVoice | hbpVoice | drain | checkCallTimeouts => exact reset

/-- As long as the hold lasts, HBP holds the lock for the talkgroup. -/
theorem holds (run : LockedRun dmr cfg ts group) (enabled : cfg.ipscCallLock = true)
    {events : List Event} (inside : ∀ event ∈ events, event ∈ run.rest) (lasts : run.Lasts events) :
    HoldsFor cfg group ((run.state events).slot ts) (run.hangStart events) := by
  obtain ⟨part, seen, taken⟩ := run.acquires
  have start : HoldsFor cfg group ((run.hangState []).1.slot ts) (run.hangState []).2 := by
    have first := slotStep_acquires dmr enabled ts
      ((translator dmr cfg).run Translator.initial run.before).1.shared taken
    change HoldsFor cfg group ((Translator.step dmr cfg _ run.acquire).1.slot ts)
      (((run.acquire.atSlot ts).bind _).or none)
    rw [(Translator.step_seen dmr cfg _ seen).1, seen, Option.or_none]
    exact first
  have found := hang_run dmr cfg ts _ (fun part => ¬ part.Resets) (HoldsFor cfg group)
    (fun shared slot started part inside kept holds =>
      holds.slotStep dmr enabled ts shared kept inside) (run.hangState []) events lasts
    (fun event member part seen => run.unbroken_at (inside event member) seen) start
  have whole := run.hangState_append [] events
  rw [List.nil_append] at whole
  rw [← run.hangState_fst events]
  unfold hangStart
  rw [whole]
  exact found

/-- The events before an arriving packet belong to the run. -/
theorem earlier_mem (run : LockedRun dmr cfg ts group) (arrival : IpscArrival ts group run.rest)
    {event : Event} (member : event ∈ arrival.earlier) : event ∈ run.rest := by
  rw [arrival.split]
  exact List.mem_append_left _ member

/-- A packet that arrives in the hold is dropped. -/
theorem drops_of_holds (run : LockedRun dmr cfg ts group) (enabled : cfg.ipscCallLock = true)
    (arrival : IpscArrival ts group run.rest)
    (holds : HoldsFor cfg group ((run.state arrival.earlier).slot ts)
      (run.hangStart arrival.earlier))
    (inside : InHold cfg ((run.state arrival.earlier).slot ts) (run.hangStart arrival.earlier)
      (arrival.clock 2)) : run.Drops arrival := by
  obtain ⟨rejected, silent⟩ := holds.rejects dmr enabled ts (run.state arrival.earlier).shared
    arrival.addressed arrival.burstType arrival.urandom inside
  exact ⟨⟨_, if_pos rfl, rejected⟩, List.map_eq_nil_iff.mpr silent⟩

/-- The clock puts the callbacks between a start of the hang time and a packet between their
readings. -/
theorem between_clock (run : LockedRun dmr cfg ts group) (arrival : IpscArrival ts group run.rest)
    {first between : List Event} (parts : arrival.earlier = first ++ between) {time : Time}
    (starts : run.hangStart first = some time) {event : Event} (member : event ∈ between) :
    (∀ packet ∈ event.lockPacket ts, packet.now ≤ arrival.clock 2) ∧
      ∀ clock ∈ event.clock, ∀ reading, time ≤ clock reading := by
  have ordered := run.forward.between
  rw [arrival.split, parts, List.append_assoc, ← List.cons_append, List.pairwise_append,
    List.pairwise_append] at ordered
  obtain ⟨-, ⟨-, -, beforePacket⟩, afterStart⟩ := ordered
  constructor
  · intro packet arrives
    obtain ⟨clock, reads, reading, now⟩ := Event.lockPacket_clock arrives
    rw [now]
    exact beforePacket event member _ List.mem_cons_self clock reads arrival.clock rfl reading 2
  · intro clock reads reading
    rcases hangTranslator_clock dmr cfg ts starts with nothing | ⟨other, known, early, readsOther, at', rfl⟩
    · cases nothing
    · exact afterStart other known event (List.mem_append_left _ member) early readsOther clock reads
        at' reading

/-- The hold lasts through the hang time. -/
theorem holds_in_hang (run : LockedRun dmr cfg ts group) (enabled : cfg.ipscCallLock = true)
    (arrival : IpscArrival ts group run.rest) {first between : List Event}
    (parts : arrival.earlier = first ++ between) (lasts : run.Lasts first) {time : Time}
    (starts : run.hangStart first = some time) (inTime : arrival.clock 2 ≤ time + cfg.hang) :
    HoldsFor cfg group ((run.state arrival.earlier).slot ts) (run.hangStart arrival.earlier) ∧
      ∃ latest ∈ run.hangStart arrival.earlier, time ≤ latest := by
  have member : ∀ event ∈ first, event ∈ run.rest := fun event known =>
    run.earlier_mem arrival (parts ▸ List.mem_append_left _ known)
  have start := run.holds enabled member lasts
  rw [← run.hangState_fst first] at start
  have found := hang_run dmr cfg ts (fun _ _ _ => True)
    (fun part => ¬ part.Resets ∧ (∀ packet ∈ part.lockPacket, packet.now ≤ arrival.clock 2) ∧
      ∀ clock ∈ part.clock, ∀ reading, time ≤ clock reading)
    (fun slot started => HoldsFor cfg group slot started ∧ ∃ latest ∈ started, time ≤ latest)
    ?_ (run.hangState first) between ?_ ?_ ⟨start, time, starts, le_refl time⟩
  · rw [← run.hangState_append, ← parts, run.hangState_fst] at found
    exact found
  · rintro shared slot started part - ⟨kept, packets, readings⟩ ⟨holds, latest, known, after⟩
    have limit : time + cfg.hang ≤ latest + cfg.hang := add_le_add_left after cfg.hang
    refine ⟨holds.slotStep dmr enabled ts shared kept fun packet handed => ?_, ?_⟩
    · exact .inr ⟨latest, known, ((packets packet handed).trans inTime).trans limit⟩
    · cases starting : part.hangStart cfg ts slot with
      | none => exact ⟨latest, known, after⟩
      | some next =>
          obtain ⟨clock, reads, reading, rfl⟩ := SlotEvent.hangStart_clock starting
          exact ⟨_, rfl, readings clock reads reading⟩
  · exact (hangTranslator dmr cfg ts).meets_of_forall _ (fun _ _ _ _ _ => trivial) [] _ between
  · intro event known part seen
    have inside := run.earlier_mem arrival (parts ▸ List.mem_append_right first known)
    obtain ⟨packets, readings⟩ := run.between_clock arrival parts starts known
    refine ⟨run.unbroken_at inside seen, fun packet handed => ?_, ?_⟩
    · exact packets packet (Option.bind_eq_some_iff.mpr ⟨part, seen, handed⟩)
    · rw [Event.atSlot_clock seen]
      exact readings

/-- A quiet hold lapses as long as no packet from HBP arrives. -/
theorem lapses (run : LockedRun dmr cfg ts group) (enabled : cfg.ipscCallLock = true)
    (arrival : IpscArrival ts group run.rest) {first between : List Event}
    (parts : arrival.earlier = first ++ between) (lasts : run.Lasts first)
    (quiet : ¬ HbpBusy ((run.state first).slot ts))
    (silent : ∀ event ∈ between, ∀ packet ∈ event.lockPacket ts, packet.key.direction = .ipsc) :
    Lapses cfg ((run.state arrival.earlier).slot ts) (run.hangStart arrival.earlier) := by
  have member : ∀ event ∈ first, event ∈ run.rest := fun event known =>
    run.earlier_mem arrival (parts ▸ List.mem_append_left _ known)
  have start := (run.holds enabled member lasts).lapses quiet
  rw [← run.hangState_fst first] at start
  have found := hang_run dmr cfg ts (fun _ _ _ => True)
    (fun part => ¬ part.Resets ∧ ∀ packet ∈ part.lockPacket, packet.key.direction = .ipsc)
    (Lapses cfg)
    (fun shared slot started part _ good lapses => lapses.slotStep dmr ts shared good.1 good.2)
    (run.hangState first) between ?_ ?_ start
  · rw [← run.hangState_append, ← parts, run.hangState_fst] at found
    exact found
  · exact (hangTranslator dmr cfg ts).meets_of_forall _ (fun _ _ _ _ _ => trivial) [] _ between
  · intro event known part seen
    have inside := run.earlier_mem arrival (parts ▸ List.mem_append_right first known)
    refine ⟨run.unbroken_at inside seen, fun packet handed => ?_⟩
    exact silent event known packet (Option.bind_eq_some_iff.mpr ⟨part, seen, handed⟩)

end LockedRun

/-- With the call lock on, an IPSC packet for the talkgroup of a HBP call that took the lock is dropped
while that direction is busy and up to the hang time after its last terminator or drain; after that
time, if no further packet from HBP has arrived, it takes the lock. -/
theorem held_then_released (dmr : DmrUtils) (cfg : Config) (enabled : cfg.ipscCallLock = true)
    (ts : Timeslot) (group : Bytes) (run : LockedRun dmr cfg ts group)
    (arrival : IpscArrival ts group run.rest) :
    (run.Lasts arrival.earlier → HbpBusy ((run.state arrival.earlier).slot ts) → run.Drops arrival) ∧
      ∀ first between time, arrival.earlier = first ++ between → run.Lasts first →
        (run.hangStart first = some time → arrival.clock 2 ≤ time + cfg.hang → run.Drops arrival) ∧
        (¬ HbpBusy ((run.state first).slot ts) →
          (∀ event ∈ between, ∀ packet ∈ event.lockPacket ts, packet.key.direction = .ipsc) →
          run.hangStart arrival.earlier = some time → time + cfg.hang < arrival.clock 2 →
          run.Asks arrival → run.Admits arrival) := by
  constructor
  · intro lasts busy
    have holds := run.holds enabled (fun event => run.earlier_mem arrival) lasts
    exact run.drops_of_holds enabled arrival holds (.inl busy)
  · intro first between time parts lasts
    constructor
    · intro starts inTime
      obtain ⟨holds, latest, known, after⟩ := run.holds_in_hang enabled arrival parts lasts starts
        inTime
      have limit : time + cfg.hang ≤ latest + cfg.hang := add_le_add_left after cfg.hang
      exact run.drops_of_holds enabled arrival holds (.inr ⟨latest, known, inTime.trans limit⟩)
    · intro quiet silent starts late asks
      have lapses := run.lapses enabled arrival parts lasts quiet silent
      obtain ⟨letIn, owned⟩ := lapses.admits dmr enabled ts (run.state arrival.earlier).shared
        arrival.urandom starts late asks.reached asks.fresh
      have arrives : (Event.ipscVoice true arrival.data ts arrival.burstType arrival.urandom
          arrival.clock).atSlot ts = some (.ipscVoice true arrival.data arrival.burstType arrival.urandom
            arrival.clock) := if_pos rfl
      constructor
      · rintro ⟨part, seen, rejected⟩
        obtain rfl := Option.some.inj (arrives.symm.trans seen)
        exact letIn rejected
      · rw [(Translator.step_seen dmr cfg (run.state arrival.earlier) arrives).1]
        exact owned

/-- The rest of a master's call on timeslot 1, whose packets wait in the queue. -/
def masterRest : List Event :=
  [.hbpVoice true (masterVoice dmrCodec [1, 1, 1, 1] [0, 0, 7] [0, 0, 2] 0x10) rtpDraw fun _ => 100,
    .hbpVoice true (masterTerm dmrCodec [1, 1, 1, 1] [0, 0, 7] [0, 0, 2]) rtpDraw fun _ => 100]

/-- The queue is drained packet by packet. -/
def masterDrains : List Event := [101, 102, 103, 104, 105].map fun time => .drain .ts1 fun _ => time

/-- A repeater answers on the talkgroup. -/
def repeaterHead (streamByte : UInt8) (time : Time) : Event :=
  .ipscVoice true (peerHead dmrCodec streamByte [0, 0, 9] [0, 0, 2]) .ts1 voiceHead
    firstDraw fun _ => time

/-- A repeater answers while the last packets of the master's call wait, in the hang time and after. -/
def answeredRun : LockedRun dmrCodec {} .ts1 [0, 0, 2] where
  before := []
  acquire :=
    .hbpVoice true (masterHead dmrCodec [1, 1, 1, 1] [0, 0, 7] [0, 0, 2]) rtpDraw fun _ => 100
  rest := masterRest ++ repeaterHead 5 100 :: masterDrains ++
    [repeaterHead 5 (421 / 4), repeaterHead 6 106]
  acquires := ⟨_, rfl, by decide +kernel, rfl, .inl rfl⟩
  unbroken := by simp [masterRest, masterDrains, repeaterHead]
  forward := by
    constructor
    · simp [masterRest, masterDrains, repeaterHead, Event.clock, monotone_const]
    · simp [masterRest, masterDrains, repeaterHead, Event.clock]
      decide +kernel

/-- The repeater's first answer meets the waiting packets. -/
def earlyAnswer : IpscArrival .ts1 [0, 0, 2] answeredRun.rest where
  earlier := masterRest
  data := peerHead dmrCodec 5 [0, 0, 9] [0, 0, 2]
  burstType := voiceHead
  urandom := firstDraw
  clock := fun _ => 100
  later := masterDrains ++ [repeaterHead 5 (421 / 4), repeaterHead 6 106]
  split := rfl
  addressed := by decide +kernel

/-- The repeater's second answer comes at the end of the hang time. -/
def hangAnswer : IpscArrival .ts1 [0, 0, 2] answeredRun.rest where
  earlier := masterRest ++ repeaterHead 5 100 :: masterDrains
  data := peerHead dmrCodec 5 [0, 0, 9] [0, 0, 2]
  burstType := voiceHead
  urandom := firstDraw
  clock := fun _ => 421 / 4
  later := [repeaterHead 6 106]
  split := rfl
  addressed := by decide +kernel

/-- The repeater's third answer comes after the hang time under a new stream byte. -/
def lateAnswer : IpscArrival .ts1 [0, 0, 2] answeredRun.rest where
  earlier := masterRest ++ repeaterHead 5 100 :: masterDrains ++ [repeaterHead 5 (421 / 4)]
  data := peerHead dmrCodec 6 [0, 0, 9] [0, 0, 2]
  burstType := voiceHead
  urandom := firstDraw
  clock := fun _ => 106
  later := []
  split := rfl
  addressed := by decide +kernel

/-- The first two answers are dropped and the third takes the lock. -/
theorem held_then_released_answered :
    answeredRun.Drops earlyAnswer ∧ answeredRun.Drops hangAnswer ∧ answeredRun.Admits lateAnswer := by
  have early := held_then_released dmrCodec {} rfl .ts1 [0, 0, 2] answeredRun earlyAnswer
  have inHang := held_then_released dmrCodec {} rfl .ts1 [0, 0, 2] answeredRun hangAnswer
  have late := held_then_released dmrCodec {} rfl .ts1 [0, 0, 2] answeredRun lateAnswer
  have drained : answeredRun.Lasts (masterRest ++ repeaterHead 5 100 :: masterDrains) := by
    unfold LockedRun.Lasts
    decide +kernel
  refine ⟨?_, ?_, ?_⟩
  · refine early.1 ?_ ?_
    · unfold LockedRun.Lasts
      decide +kernel
    · decide +kernel
  · refine (inHang.2 _ [] 105 (List.append_nil _).symm drained).1 ?_ ?_
    · decide +kernel
    · decide +kernel
  · refine (late.2 _ [repeaterHead 5 (421 / 4)] 105 rfl drained).2 ?_ ?_ ?_ ?_ ?_
    · decide +kernel
    · decide +kernel
    · decide +kernel
    · decide +kernel
    · exact ⟨by decide +kernel, by decide +kernel⟩

/-- The legacy flow without pacing. -/
def legacyConfig : Config := { compatPacketFlow := .legacyAmbe, hbpToIpscPacing := false }

/-- A master's call has ended when a voice burst without a header arrives. -/
def legacyRun : LockedRun dmrCodec legacyConfig .ts1 [0, 0, 2] where
  before := []
  acquire :=
    .hbpVoice true (masterHead dmrCodec [1, 1, 1, 1] [0, 0, 7] [0, 0, 2]) rtpDraw fun _ => 100
  rest := masterRest ++
    [.ipscVoice true (peerVoice 5 [0, 0, 9] [0, 0, 2] (List.replicate 19 0)) .ts1 slot1Voice
      firstDraw fun _ => 110]
  acquires := ⟨_, rfl, by decide +kernel, rfl, .inl rfl⟩
  unbroken := by simp [masterRest]
  forward := by
    constructor
    · simp [masterRest, Event.clock, monotone_const]
    · simp [masterRest, Event.clock]
      decide +kernel

def unannouncedBurst : IpscArrival .ts1 [0, 0, 2] legacyRun.rest where
  earlier := masterRest
  data := peerVoice 5 [0, 0, 9] [0, 0, 2] (List.replicate 19 0)
  burstType := slot1Voice
  urandom := firstDraw
  clock := fun _ => 110
  later := []
  split := rfl
  addressed := by decide +kernel

/-- The legacy stream test drops the burst before the lock is asked, so HBP still owns the lock. -/
theorem released_untaken_unannouncedBurst :
    let slot := (legacyRun.state unannouncedBurst.earlier).slot .ts1
    legacyRun.Lasts unannouncedBurst.earlier ∧ ¬ HbpBusy slot ∧
      legacyRun.hangStart unannouncedBurst.earlier = some 100 ∧
      100 + legacyConfig.hang < unannouncedBurst.clock 2 ∧
      ((slot.lock.prune (unannouncedBurst.clock 2)).blocked
        (.ipsc unannouncedBurst.data[gvIpscSeqOff]?)).isSome = false ∧
      ¬ legacyRun.Admits unannouncedBurst := by
  refine ⟨?_, ?_, ?_, ?_, ?_, ?_⟩
  · unfold LockedRun.Lasts
    decide +kernel
  · decide +kernel
  · decide +kernel
  · decide +kernel
  · decide +kernel
  · rintro ⟨-, taken⟩
    revert taken
    decide +kernel

end Ipsc2Hbp
