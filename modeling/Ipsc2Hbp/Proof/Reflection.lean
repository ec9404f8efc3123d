import Ipsc2Hbp.Construction.DmrCodec
import Ipsc2Hbp.Construction.GroupVoice
import Ipsc2Hbp.Construction.Packets
import Ipsc2Hbp.Proof.QueuedCalls
import Ipsc2Hbp.Proof.ReflectTables

namespace Ipsc2Hbp
open BigEndian

/-- Without the call lock a packet passes the stream test and the reflection test. -/
theorem ipscGate_unlocked {cfg : Config} (unlocked : cfg.ipscCallLock = false) (data : Bytes)
    (burstType : UInt8) (clock : Clock) (slot : Slot) :
    ipscGate cfg data burstType clock slot =
      let prelude := legacyPrelude cfg data burstType clock slot
      if prelude.1 then prelude
      else
        let suppressed := shouldSuppressIpscReflection cfg data[gvIpscSeqOff]? burstType
          (gvSrcSub data) (gvDstGroup data) (clock 3) prelude.2
        if suppressed.1 then suppressed
        else (false, { suppressed.2 with ipscBusyLast := clock 4 }) := by
  unfold ipscGate callLockBlocks
  simp only [unlocked, Bool.not_false, if_true, Bool.false_eq_true, if_false]

/-- A header repeats the open stream of the timeslot in the legacy flow. -/
structure RepeatsStream (cfg : Config) (streamByte : UInt8) (slot : Slot) : Prop where
  legacy : cfg.legacyFlow = true
  opened : slot.outCall.streamId.isSome = true
  same : slot.outCall.ipscStreamByte = none ∨ slot.outCall.ipscStreamByte = some streamByte

/-- A header is never stale. The legacy flow keeps its stream open when the header repeats it. -/
theorem legacyPrelude_head (cfg : Config) {data : Bytes} {streamByte : UInt8}
    (named : data[gvIpscSeqOff]? = some streamByte) (clock : Clock) (slot : Slot) :
    let prelude := legacyPrelude cfg data voiceHead clock slot
    prelude.1 = false ∧ ((cfg.legacyFlow = true ∧ prelude.2.outCall.streamId.isSome = true) ↔
      RepeatsStream cfg streamByte slot) := by
  unfold legacyPrelude legacyIpscStreamDrop
  rw [named]
  cases flow : cfg.legacyFlow with
  | false =>
      refine ⟨rfl, iff_of_false (by simp) fun repeats => ?_⟩
      exact Bool.noConfusion (flow.symm.trans repeats.legacy)
  | true =>
      refine ⟨rfl, ?_⟩
      simp only [if_true, true_and]
      cases current : slot.outCall.ipscStreamByte with
      | none =>
          simp only [Option.isSome_none, Bool.false_and, Bool.false_eq_true, if_false]
          exact ⟨fun opened => ⟨flow, opened, .inl current⟩, RepeatsStream.opened⟩
      | some byte =>
          by_cases own : byte = streamByte
          · subst own
            simp only [ne_eq, not_true_eq_false, decide_false, Bool.and_false, Bool.false_eq_true,
              if_false]
            exact ⟨fun opened => ⟨flow, opened, .inr current⟩, RepeatsStream.opened⟩
          · refine iff_of_false ?_ fun repeats => ?_
            · cases opened : slot.outCall.streamId <;> simp [own]
            · simpa [current, own] using repeats.same

/-- An IPSC packet reaches the reflection test. -/
def ReachesTest (cfg : Config) (connected : Bool) (data : Bytes) (burstType : UInt8) (clock : Clock)
    (slot : Slot) : Prop :=
  connected = true ∧ (legacyPrelude cfg data burstType clock slot).1 = false

/-- The reflection test of an IPSC packet, on the state that the stream test leaves. -/
def reflectionTest (cfg : Config) (data : Bytes) (burstType : UInt8) (clock : Clock) (slot : Slot) :
    Bool × Slot :=
  shouldSuppressIpscReflection cfg data[gvIpscSeqOff]? burstType (gvSrcSub data) (gvDstGroup data)
    (clock 3) (legacyPrelude cfg data burstType clock slot).2

/-- The reflection test decides on the tables and the started flag of the timeslot. -/
theorem reflectionTest_tested {cfg : Config} (suppresses : SuppressesEchoes cfg) {data : Bytes}
    {streamByte : UInt8} (named : data[gvIpscSeqOff]? = some streamByte) (burstType : UInt8)
    (clock : Clock) (slot : Slot) :
    EchoTested cfg streamByte burstType (gvSrcSub data) (gvDstGroup data) (clock 3) slot
      (reflectionTest cfg data burstType clock slot) := by
  obtain ⟨outCall, lockUntil, framed, -⟩ := legacyPrelude_frame cfg data burstType clock slot
  have tested := shouldSuppressIpscReflection_tested suppresses streamByte burstType (gvSrcSub data)
    (gvDstGroup data) (clock 3) { slot with outCall := outCall, lock.lockUntil := lockUntil }
  rw [reflectionTest, named, framed]
  exact ⟨tested.verdict, tested.recent, tested.own, tested.others⟩

/-- A packet without a stream byte leaves the tables. -/
theorem reflectionTest_unnamed (cfg : Config) {data : Bytes} (unnamed : data[gvIpscSeqOff]? = none)
    (burstType : UInt8) (clock : Clock) (slot : Slot) :
    (reflectionTest cfg data burstType clock slot).2.reflect = slot.reflect := by
  obtain ⟨outCall, lockUntil, framed, -⟩ := legacyPrelude_frame cfg data burstType clock slot
  rw [reflectionTest, unnamed, framed]
  unfold shouldSuppressIpscReflection
  split <;> rfl

/-- A burst leaves the reflection tables. -/
theorem BurstOutcome.reflect {dmr : DmrUtils} {cfg : Config} {ts : Timeslot} {data : Bytes}
    {burstType : UInt8} {urandom : StreamId} {now : Time} {seq : UInt8} {slot after : Slot}
    {actions : List Action}
    (outcome : BurstOutcome dmr cfg ts data burstType urandom now seq slot after actions) :
    after.reflect = slot.reflect := by
  cases outcome with
  | ignored | outOfRange | headOpened | headRepeated | ended | voiceSent | enteredLate
  | enteredSilent => rfl

/-- A packet that reaches the test leaves the tables that the test leaves, and one that the test
suppresses does nothing else. -/
theorem ipscVoiceReceived_judged (dmr : DmrUtils) {cfg : Config} (unlocked : cfg.ipscCallLock = false)
    {connected : Bool} {data : Bytes} (ts : Timeslot) {burstType : UInt8} (urandom : StreamId)
    {clock : Clock} (shared : Shared) {slot : Slot}
    (reaches : ReachesTest cfg connected data burstType clock slot) :
    let result := ipscVoiceReceived dmr cfg connected data ts burstType urandom clock shared slot
    result.2.1.reflect = (reflectionTest cfg data burstType clock slot).2.reflect ∧
      ((reflectionTest cfg data burstType clock slot).1 = true → result.2.2 = []) := by
  obtain ⟨rfl, current⟩ := reaches
  rw [ipscVoiceReceived_eq, ipscGate_unlocked unlocked]
  simp only [current, Bool.false_eq_true, if_false]
  cases judged : (reflectionTest cfg data burstType clock slot).1 with
  | true =>
      rw [reflectionTest] at judged
      simp only [judged, if_true]
      exact ⟨rfl, fun _ => trivial⟩
  | false =>
      rw [reflectionTest] at judged
      simp only [judged, Bool.false_eq_true, if_false]
      refine ⟨?_, fun suppressed => by cases suppressed⟩
      have outcome := sendBurst_cases dmr cfg ts data burstType urandom (clock 5) (shared.learn data)
        { (reflectionTest cfg data burstType clock slot).2 with ipscBusyLast := clock 4 }
      exact outcome.reflect

/-- A packet that does not reach the test sends nothing and leaves the tables. -/
theorem ipscVoiceReceived_unjudged (dmr : DmrUtils) {cfg : Config} {connected : Bool} {data : Bytes}
    (ts : Timeslot) {burstType : UInt8} (urandom : StreamId) {clock : Clock} (shared : Shared)
    {slot : Slot} (avoids : ¬ ReachesTest cfg connected data burstType clock slot) :
    let result := ipscVoiceReceived dmr cfg connected data ts burstType urandom clock shared slot
    result.2.1.reflect = slot.reflect ∧ result.2.2 = [] := by
  cases connected with
  | false => exact ⟨rfl, rfl⟩
  | true =>
      have stale : (legacyPrelude cfg data burstType clock slot).1 = true := by
        rw [← Bool.not_eq_false]
        exact fun current => avoids ⟨rfl, current⟩
      obtain ⟨outCall, lockUntil, framed, -⟩ := legacyPrelude_frame cfg data burstType clock slot
      have kept : (legacyPrelude cfg data burstType clock slot).2.reflect = slot.reflect := by
        rw [framed]
      rw [ipscVoiceReceived_eq]
      unfold ipscGate
      simp only [stale, if_true]
      exact ⟨kept, trivial⟩

/-- A header that passes the tests is silent exactly when the legacy flow has a stream open. -/
theorem sendBurst_head_silent (dmr : DmrUtils) (cfg : Config) (ts : Timeslot) (data : Bytes)
    (urandom : StreamId) (now : Time) (shared : Shared) (slot : Slot) :
    (∀ action ∈ (sendBurst cfg ts (gvSrcSub data) (gvDstGroup data) voiceHead now shared
      (burstOf dmr cfg data (gvSrcSub data) (gvDstGroup data) voiceHead urandom slot)).2.2,
      ¬ action.ReachesHbp) ↔ cfg.legacyFlow = true ∧ slot.outCall.streamId.isSome = true := by
  unfold burstOf headBurst
  rw [if_pos rfl]
  cases opened : slot.outCall.streamId with
  | none =>
      refine iff_of_false (fun silent => ?_) (by simp)
      refine silent (.openStream urandom.val (gvLc dmr data)) ?_ trivial
      simp only
      rw [sendBurst_frame rfl]
      exact List.mem_append_left _ (List.mem_singleton_self _)
  | some streamId =>
      cases flow : cfg.legacyFlow with
      | true => exact iff_of_true (by simp [sendBurst]) ⟨rfl, rfl⟩
      | false =>
          refine iff_of_false (fun silent => ?_) (by simp)
          simp only [Bool.false_eq_true, if_false] at silent
          rw [sendBurst_frame rfl, flow] at silent
          exact silent _ List.mem_cons_self trivial

/-- The state in which a header of the stream passes the reflection test and reaches HBP: no call is
started, whatever waits in the queue. -/
structure EchoSlips (cfg : Config) (connected : Bool) (streamByte : UInt8) (now : Time)
    (slot : Slot) : Prop where
  connected : connected = true
  unstarted : slot.inCall.started = false
  heeded : ¬ IgnoresStream streamByte now slot
  fresh : ¬ RepeatsStream cfg streamByte slot

/-- A header of a recalled call is suppressed exactly when it does not slip through. -/
theorem ipscVoiceReceived_echo (dmr : DmrUtils) {cfg : Config} (suppresses : SuppressesEchoes cfg)
    (connected : Bool) {data : Bytes} {streamByte : UInt8}
    (named : data[gvIpscSeqOff]? = some streamByte) (ts : Timeslot) (urandom : StreamId)
    (clock : Clock) (shared : Shared) (slot : Slot)
    (recalled : slot.inCall.started = true →
      Recalls (gvSrcSub data) (gvDstGroup data) (clock 3) slot) :
    (∀ action ∈ (ipscVoiceReceived dmr cfg connected data ts voiceHead urandom clock shared slot).2.2,
      ¬ action.ReachesHbp) ↔ ¬ EchoSlips cfg connected streamByte (clock 3) slot := by
  cases connection : connected with
  | false =>
      refine iff_of_true (by simp [ipscVoiceReceived]) fun slips => ?_
      exact Bool.false_ne_true slips.connected
  | true =>
      obtain ⟨current, repeats⟩ := legacyPrelude_head cfg named clock slot
      have verdict := (reflectionTest_tested suppresses named voiceHead clock slot).verdict
      obtain ⟨suppressed, reflect, judged⟩ := shouldSuppressIpscReflection_frame cfg
        data[gvIpscSeqOff]? voiceHead (gvSrcSub data) (gvDstGroup data) (clock 3)
        (legacyPrelude cfg data voiceHead clock slot).2
      rw [reflectionTest, judged] at verdict
      rw [ipscVoiceReceived_eq, ipscGate_unlocked suppresses.unlocked]
      simp only [current, Bool.false_eq_true, if_false, judged]
      cases suppressed with
      | true =>
          refine iff_of_true (by simp) fun slips => ?_
          rcases verdict.mp rfl with ignored | ⟨-, started, -⟩
          · exact slips.heeded ignored
          · exact Bool.noConfusion (slips.unstarted.symm.trans started)
      | false =>
          simp only [Bool.false_eq_true, if_false]
          have passed := mt verdict.mpr Bool.false_ne_true
          have heeded : ¬ IgnoresStream streamByte (clock 3) slot := fun held => passed (.inl held)
          have unstarted : slot.inCall.started = false := by
            rw [Bool.eq_false_iff]
            exact fun started => passed (.inr ⟨rfl, started, recalled started⟩)
          rw [sendBurst_head_silent]
          change cfg.legacyFlow = true ∧
            (legacyPrelude cfg data voiceHead clock slot).2.outCall.streamId.isSome = true ↔ _
          rw [repeats]
          constructor
          · exact fun again slips => slips.fresh again
          · intro stays
            by_contra fresh
            exact stays ⟨rfl, unstarted, heeded, fresh⟩

/-- Every reading of a callback lies within the window before the time. -/
def SlotEvent.WithinWindow (cfg : Config) (now : Time) (part : SlotEvent) : Prop :=
  ∀ clock ∈ part.clock, ∀ reading,
    clock reading ≤ now ∧ now < clock reading + cfg.ipscReflectWindow

/-- Only the loss of the peer or of HBP forgets a recalled call, and no call outlives that. -/
theorem slotStep_recalls (dmr : DmrUtils) {cfg : Config} (suppresses : SuppressesEchoes cfg)
    (ts : Timeslot) (shared : Shared) {slot : Slot} {part : SlotEvent} {srcSub dstGroup : Bytes}
    {now : Time} (within : part.WithinWindow cfg now) (recalled : Recalls srcSub dstGroup now slot) :
    let after := (slotStep dmr cfg ts shared slot part).2.1
    Recalls srcSub dstGroup now after ∨ (after.inCall.Closed ∧ after.tx.queue = []) := by
  have congr {after : Slot} (same : after.reflect = slot.reflect) :
      Recalls srcSub dstGroup now after := by rwa [Recalls, same]
  cases part with
  | ipscVoice connected data burstType urandom clock =>
      left
      change Recalls srcSub dstGroup now
        (ipscVoiceReceived dmr cfg connected data ts burstType urandom clock shared slot).2.1
      by_cases reaches : ReachesTest cfg connected data burstType clock slot
      · have judged := (ipscVoiceReceived_judged dmr suppresses.unlocked ts urandom shared reaches).1
        cases named : data[gvIpscSeqOff]? with
        | none => exact congr (judged.trans (reflectionTest_unnamed cfg named burstType clock slot))
        | some streamByte =>
            obtain ⟨entry, member, same, group, lasts⟩ := recalled
            refine ⟨entry, ?_, same, group, lasts⟩
            rw [judged, (reflectionTest_tested suppresses named burstType clock slot).recent]
            refine List.mem_filter.mpr ⟨member, decide_eq_true ?_⟩
            exact lt_of_le_of_lt (within clock rfl 3).1 lasts
      · exact congr (ipscVoiceReceived_unjudged dmr ts urandom shared reaches).1
  | hbpFrame frame draw clock =>
      left
      have step := hbpFrameReceived_reflect dmr suppresses frame draw clock shared slot
      exact step.kept now (fun reading _ => within clock rfl (2 + reading)) _ _ recalled
  | drain clock =>
      left
      have step := drainHbpToIpscQueue_reflect suppresses clock slot
      exact step.kept now (fun reading _ => within clock rfl reading) _ _ recalled
  | checkCallTimeouts timeout clock =>
      refine .inl (congr ?_)
      change (checkCallTimeouts cfg timeout clock ts slot).reflect = slot.reflect
      unfold checkCallTimeouts checkInTimeout checkOutTimeout endHbpCall
      split_ifs <;> rfl
  | peerLost | hbpDisconnected => exact .inr ⟨⟨rfl, rfl⟩, rfl⟩

/-- The call was opened, and its source and talkgroup are recalled unless it is finished. -/
structure StillRecalled (call : Nat) (srcSub dstGroup : Bytes) (now : Time) (slot : Slot) : Prop where
  counted : call ≤ slot.inCall.serial
  recalled : Recalls srcSub dstGroup now slot ∨ Finished call slot

theorem StillRecalled.slotStep {dmr : DmrUtils} {cfg : Config} (suppresses : SuppressesEchoes cfg)
    {ts : Timeslot} {shared : Shared} {slot : Slot} {part : SlotEvent} {call : Nat}
    {srcSub dstGroup : Bytes} {now : Time} (within : part.WithinWindow cfg now)
    (still : StillRecalled call srcSub dstGroup now slot) :
    StillRecalled call srcSub dstGroup now (slotStep dmr cfg ts shared slot part).2.1 := by
  have calls := slotStep_callsOn dmr cfg ts shared slot part
  have counted := still.counted.trans calls.serial
  refine ⟨counted, ?_⟩
  rcases still.recalled with recalled | finished
  · rcases slotStep_recalls dmr suppresses ts shared within recalled with kept | ⟨closed, empty⟩
    · exact .inl kept
    · exact .inr ⟨counted, fun _ => closed, fun entry waits => by simp [empty] at waits⟩
  · exact .inr (calls.finished finished)

/-- The first reading at which a callback may send a generated packet. -/
def Event.sentAt : Event → Option Time
  | .drain _ clock => some (clock 1)
  | .hbpVoice _ _ _ clock => some (clock 3)
  | .ipscVoice .. | .checkCallTimeouts .. | .peerRegistered | .peerLost | .hbpDisconnected => none

/-- A callback that sends a packet within the window before the time recalls its call. -/
theorem step_sends (dmr : DmrUtils) {cfg : Config} (suppresses : SuppressesEchoes cfg)
    {ts : Timeslot} {tr : Translator} {event : Event} {entry : QueueEntry} {now sentAt : Time}
    (counted : QueueCounted (tr.slot ts)) (sends : event.sentAt = some sentAt)
    (monotone : ∀ clock ∈ event.clock, Monotone clock)
    (past : ∀ clock ∈ event.clock, ∀ reading, clock reading ≤ now)
    (inTime : now < sentAt + cfg.ipscReflectWindow)
    (sent : .slot ts (.sendToPeer entry) ∈ (Translator.step dmr cfg tr event).2) :
    StillRecalled entry.call entry.srcSub entry.dstGroup now
      ((Translator.step dmr cfg tr event).1.slot ts) := by
  have member : .sendToPeer entry ∈ slotActions ts (Translator.step dmr cfg tr event).2 :=
    List.mem_filterMap.mpr ⟨_, sent, by simp⟩
  cases seen : event.atSlot ts with
  | none =>
      rw [(Translator.step_unseen dmr cfg tr seen).2] at member
      simp at member
  | some part =>
      obtain ⟨state, actions⟩ := Translator.step_seen dmr cfg tr seen
      rw [actions] at member
      rw [state]
      have calls := slotStep_callsOn dmr cfg ts tr.shared (tr.slot ts) part
      refine ⟨calls.sent_counted counted member, .inl ?_⟩
      cases Event.atSlot_cases seen with
      | hbpVoice registered dmrd frame draw clock accepted here =>
          obtain rfl := Option.some.inj sends
          have step := hbpFrameReceived_reflect dmr suppresses frame draw clock tr.shared (tr.slot ts)
          refine step.sent now (fun reading positive => ⟨past clock rfl _, ?_⟩) entry member
          have later : clock 3 ≤ clock (2 + reading) := monotone clock rfl (by omega)
          exact lt_of_lt_of_le inTime (add_le_add_left later _)
      | drain clock =>
          obtain rfl := Option.some.inj sends
          have step := drainHbpToIpscQueue_reflect suppresses clock (tr.slot ts)
          refine step.sent now (fun reading positive => ⟨past clock rfl _, ?_⟩) entry member
          exact lt_of_lt_of_le inTime (add_le_add_left (monotone clock rfl positive) _)
      | ipscVoice | checkCallTimeouts | peerLost | hbpDisconnected => cases sends

/-- An IPSC packet as the translator's callback gets it. -/
structure IpscPacket where
  connected : Bool
  data : Bytes
  burstType : UInt8
  urandom : StreamId
  clock : Clock

namespace IpscPacket

def event (packet : IpscPacket) (ts : Timeslot) : Event :=
  .ipscVoice packet.connected packet.data ts packet.burstType packet.urandom packet.clock

def stream (packet : IpscPacket) : Option UInt8 := packet.data[gvIpscSeqOff]?

/-- The time at which the reflection test sees the packet. -/
def now (packet : IpscPacket) : Time := packet.clock 3

end IpscPacket

/-- Nothing of the step reaches HBP: it sends no frame and opens no stream. -/
def Suppressed (dmr : DmrUtils) (cfg : Config) (tr : Translator) (event : Event) : Prop :=
  ∀ ts action, .slot ts action ∈ (Translator.step dmr cfg tr event).2 → ¬ action.ReachesHbp

/-- A header has the source and talkgroup of a packet that was sent on the timeslot within the window,
and the call of that packet is still transmitted. -/
structure EchoOf (dmr : DmrUtils) (cfg : Config) (ts : Timeslot) (earlier : List Event)
    (sender : Event) (later : List Event) (entry : QueueEntry) (head : IpscPacket) : Prop where
  isHead : head.burstType = voiceHead
  srcSub : gvSrcSub head.data = entry.srcSub
  dstGroup : gvDstGroup head.data = entry.dstGroup
  sent : .slot ts (.sendToPeer entry) ∈
    (Translator.step dmr cfg ((translator dmr cfg).run Translator.initial earlier).1 sender).2
  inTime : ∃ sentAt ∈ sender.sentAt, head.now < sentAt + cfg.ipscReflectWindow
  transmitting : Transmitting entry.call
    (((translator dmr cfg).run Translator.initial (earlier ++ sender :: later)).1.slot ts)

/-- The packets that wait belong to calls that were opened, in every run. -/
theorem run_queueCounted (dmr : DmrUtils) (cfg : Config) (ts : Timeslot) (events : List Event) :
    QueueCounted (((translator dmr cfg).run Translator.initial events).1.slot ts) := by
  refine slot_run_always dmr cfg ts (fun _ slot => QueueCounted slot) ?_ events (by
    intro entry waits
    cases waits)
  intro _ shared slot part _ _ counted
  exact (slotStep_callsOn dmr cfg ts shared slot part).counted counted

/-- A call whose packet was sent within the window is recalled up to the header, unless it is
finished. -/
theorem EchoOf.recalled {dmr : DmrUtils} {cfg : Config} (suppresses : SuppressesEchoes cfg)
    {ts : Timeslot} {earlier later : List Event} {sender : Event} {entry : QueueEntry}
    {head : IpscPacket} (echo : EchoOf dmr cfg ts earlier sender later entry head)
    (forward : ClockForward (earlier ++ sender :: later ++ [head.event ts])) :
    StillRecalled entry.call (gvSrcSub head.data) (gvDstGroup head.data) head.now
      (((translator dmr cfg).run Translator.initial (earlier ++ sender :: later)).1.slot ts) := by
  obtain ⟨sentAt, sends, inTime⟩ := echo.inTime
  obtain ⟨before, -, toHead⟩ := List.pairwise_append.mp forward.between
  have past (event : Event) (member : event ∈ earlier ++ sender :: later) :
      ∀ clock ∈ event.clock, ∀ reading, clock reading ≤ head.now := fun clock known reading =>
    toHead event member (head.event ts) (List.mem_singleton_self _) clock known head.clock rfl reading 3
  have fromSender := (List.pairwise_cons.mp (List.pairwise_append.mp before).2.1).1
  have inside (event : Event) (member : event ∈ earlier ++ sender :: later) :
      ∀ clock ∈ event.clock, Monotone clock :=
    forward.inside event (List.mem_append_left _ member)
  have isSender : sender ∈ earlier ++ sender :: later :=
    List.mem_append_right _ List.mem_cons_self
  have start := step_sends dmr suppresses (run_queueCounted dmr cfg ts earlier) sends
    (inside sender isSender) (past sender isSender) inTime echo.sent
  have reading : ∃ clock ∈ sender.clock, ∃ number, sentAt = clock number := by
    cases sender with
    | drain _ clock => exact ⟨clock, rfl, 1, (Option.some.inj sends).symm⟩
    | hbpVoice _ _ _ clock => exact ⟨clock, rfl, 3, (Option.some.inj sends).symm⟩
    | ipscVoice | checkCallTimeouts | peerRegistered | peerLost | hbpDisconnected => cases sends
  obtain ⟨sentClock, known, number, rfl⟩ := reading
  rw [echo.srcSub, echo.dstGroup, Mealy.run_append, Mealy.run_cons]
  refine (translator dmr cfg).run_log_invariant
    (fun _ _ event => ∀ clock ∈ event.clock, ∀ reading,
      clock reading ≤ head.now ∧ head.now < clock reading + cfg.ipscReflectWindow)
    (fun _ tr => StillRecalled entry.call entry.srcSub entry.dstGroup head.now (tr.slot ts)) ?_ [] _ later
    ?_ start
  · intro _ tr event within still
    change StillRecalled entry.call entry.srcSub entry.dstGroup head.now
      ((Translator.step dmr cfg tr event).1.slot ts)
    cases seen : event.atSlot ts with
    | none => rwa [(Translator.step_unseen dmr cfg tr seen).1]
    | some part =>
        rw [(Translator.step_seen dmr cfg tr seen).1]
        refine still.slotStep suppresses fun clock member => ?_
        rw [Event.atSlot_clock seen] at member
        exact within clock member
  · refine (Mealy.Meets.and_events ((translator dmr cfg).meets_of_forall (fun _ _ _ => True)
      (fun _ _ _ => trivial) _ _ _) fun event member => ?_).imp fun _ _ _ both => both.2
    intro clock has reading
    refine ⟨past event (List.mem_append_right _ (List.mem_cons_of_mem _ member)) clock has reading, ?_⟩
    have after := fromSender event member sentClock known clock has number reading
    exact lt_of_lt_of_le inTime (add_le_add_left after _)

/-- A step with a packet of the timeslot is silent when the packet's own work is. -/
theorem suppressed_iff (dmr : DmrUtils) (cfg : Config) (ts : Timeslot) (tr : Translator)
    (packet : IpscPacket) :
    Suppressed dmr cfg tr (packet.event ts) ↔
      ∀ action ∈ (ipscVoiceReceived dmr cfg packet.connected packet.data ts packet.burstType
        packet.urandom packet.clock tr.shared (tr.slot ts)).2.2, ¬ action.ReachesHbp := by
  constructor
  · exact fun silent action member => silent ts action (List.mem_map.mpr ⟨action, member, rfl⟩)
  · intro silent other action member
    obtain ⟨done, inside, same⟩ := List.mem_map.mp member
    cases same
    exact silent action inside

/-- In every run the echo of a call that is still transmitted is suppressed exactly when it does not
slip through. -/
theorem EchoOf.suppressed_iff {dmr : DmrUtils} {cfg : Config} (suppresses : SuppressesEchoes cfg)
    {ts : Timeslot} {earlier later : List Event} {sender : Event} {entry : QueueEntry}
    {head : IpscPacket} {streamByte : UInt8} (named : head.stream = some streamByte)
    (echo : EchoOf dmr cfg ts earlier sender later entry head)
    (forward : ClockForward (earlier ++ sender :: later ++ [head.event ts])) :
    let before := ((translator dmr cfg).run Translator.initial (earlier ++ sender :: later)).1
    Suppressed dmr cfg before (head.event ts) ↔
      ¬ EchoSlips cfg head.connected streamByte head.now (before.slot ts) := by
  intro before
  rw [Ipsc2Hbp.suppressed_iff, echo.isHead]
  refine ipscVoiceReceived_echo dmr suppresses head.connected named ts head.urandom head.clock
    before.shared (before.slot ts) fun _ => ?_
  rcases (echo.recalled suppresses forward).recalled with recalled | finished
  · exact recalled
  · exact absurd echo.transmitting finished.not_transmitting

/-- The times at which the reflection test sees the packets of a stream on the timeslot. -/
def Event.streamPacket (ts : Timeslot) (streamByte : UInt8) : Event → Option Time
  | .ipscVoice _ data other _ _ clock =>
      if other = ts ∧ data[gvIpscSeqOff]? = some streamByte then some (clock 3) else none
  | _ => none

/-- The time of the reflection test in any IPSC packet on the timeslot. -/
def Event.testReading (ts : Timeslot) : Event → Option Time
  | .ipscVoice _ _ other _ _ clock => if other = ts then some (clock 3) else none
  | _ => none

/-- A callback loses neither the peer nor HBP, and a packet of the stream reaches the reflection
test. -/
structure KeepsEcho (cfg : Config) (ts : Timeslot) (streamByte : UInt8) (tr : Translator)
    (event : Event) : Prop where
  linked : event ≠ .peerLost ∧ event ≠ .hbpDisconnected
  tested : ∀ packet : IpscPacket, event = packet.event ts → packet.stream = some streamByte →
    ReachesTest cfg packet.connected packet.data packet.burstType packet.clock (tr.slot ts)

/-- The callback brings no terminator of the stream. -/
def Unended (ts : Timeslot) (streamByte : UInt8) (event : Event) : Prop :=
  ∀ packet : IpscPacket, event = packet.event ts → packet.stream = some streamByte →
    packet.burstType ≠ voiceTerm

/-- The stream's entry lasts from its last packet for the window, if no packet was tested later than
that. -/
def StaysIgnored (cfg : Config) (ts : Timeslot) (streamByte : UInt8) (last now : Time)
    (tr : Translator) : Prop :=
  now < last + cfg.ipscReflectWindow →
    (tr.slot ts).reflect.ignore streamByte = some (last + cfg.ipscReflectWindow)

/-- A packet that the test suppresses renews the entry of its stream, unless it ends the stream. -/
theorem StaysIgnored.renewed {dmr : DmrUtils} {cfg : Config} (suppresses : SuppressesEchoes cfg)
    {ts : Timeslot} {packet : IpscPacket} {streamByte : UInt8}
    (named : packet.stream = some streamByte) {tr : Translator}
    (reaches : ReachesTest cfg packet.connected packet.data packet.burstType packet.clock (tr.slot ts))
    (unended : packet.burstType ≠ voiceTerm)
    (suppressed : (reflectionTest cfg packet.data packet.burstType packet.clock (tr.slot ts)).1 = true) :
    StaysIgnored cfg ts streamByte packet.now packet.now
      (Translator.step dmr cfg tr (packet.event ts)).1 := by
  intro _
  have state : (Translator.step dmr cfg tr (packet.event ts)).1.slot ts =
      (ipscVoiceReceived dmr cfg packet.connected packet.data ts packet.burstType packet.urandom
        packet.clock tr.shared (tr.slot ts)).2.1 :=
    Function.update_self ..
  have tested := reflectionTest_tested suppresses named packet.burstType packet.clock (tr.slot ts)
  rw [state, (ipscVoiceReceived_judged dmr suppresses.unlocked ts packet.urandom tr.shared reaches).1]
  exact (tested.own suppressed).trans (if_neg unended)

/-- A packet of another stream keeps an entry that lies ahead. -/
theorem ipscVoiceReceived_ignore (dmr : DmrUtils) {cfg : Config} (suppresses : SuppressesEchoes cfg)
    (connected : Bool) {data : Bytes} (ts : Timeslot) (burstType : UInt8) (urandom : StreamId)
    {clock : Clock} (shared : Shared) {slot : Slot} {streamByte : UInt8}
    (foreign : data[gvIpscSeqOff]? ≠ some streamByte) {expiry : Time}
    (entry : slot.reflect.ignore streamByte = some expiry) (ahead : clock 3 < expiry) :
    (ipscVoiceReceived dmr cfg connected data ts burstType urandom clock shared
      slot).2.1.reflect.ignore streamByte = some expiry := by
  by_cases reaches : ReachesTest cfg connected data burstType clock slot
  · rw [(ipscVoiceReceived_judged dmr suppresses.unlocked ts urandom shared reaches).1]
    cases named : data[gvIpscSeqOff]? with
    | none => rw [reflectionTest_unnamed cfg named, entry]
    | some byte =>
        have apart : streamByte ≠ byte := by
          rintro rfl
          exact foreign named
        have tested := reflectionTest_tested suppresses named burstType clock slot
        rw [tested.others streamByte apart, entry]
        simp [ahead]
  · rw [(ipscVoiceReceived_unjudged dmr ts urandom shared reaches).1, entry]

/-- Every other callback that loses no link keeps the entry. -/
theorem StaysIgnored.passed {dmr : DmrUtils} {cfg : Config} (suppresses : SuppressesEchoes cfg)
    {ts : Timeslot} {streamByte : UInt8} {tr : Translator} {event : Event}
    (linked : event ≠ .peerLost ∧ event ≠ .hbpDisconnected)
    (other : event.streamPacket ts streamByte = none) {last now : Time}
    (stays : StaysIgnored cfg ts streamByte last now tr)
    (after : ∀ time ∈ event.testReading ts, now ≤ time) :
    StaysIgnored cfg ts streamByte last ((event.testReading ts).getD now)
      (Translator.step dmr cfg tr event).1 := by
  have quiet (unread : event.testReading ts = none)
      (same : ((Translator.step dmr cfg tr event).1.slot ts).reflect.ignore =
        (tr.slot ts).reflect.ignore) :
      StaysIgnored cfg ts streamByte last ((event.testReading ts).getD now)
        (Translator.step dmr cfg tr event).1 := by
    rw [unread]
    intro ahead
    rw [same]
    exact stays ahead
  cases seen : event.atSlot ts with
  | none =>
      refine quiet ?_ (by rw [(Translator.step_unseen dmr cfg tr seen).1])
      cases event with
      | ipscVoice connected data there burstType urandom clock =>
          simpa [Event.atSlot, Event.testReading] using seen
      | hbpVoice | drain | checkCallTimeouts | peerRegistered | peerLost | hbpDisconnected => rfl
  | some part =>
      have state := (Translator.step_seen dmr cfg tr seen).1
      cases Event.atSlot_cases seen with
      | hbpVoice registered dmrd frame draw clock accepted here =>
          refine quiet rfl ?_
          rw [state]
          exact (hbpFrameReceived_reflect dmr suppresses frame draw clock tr.shared (tr.slot ts)).ignore
      | drain clock =>
          refine quiet rfl ?_
          rw [state]
          exact (drainHbpToIpscQueue_reflect suppresses clock (tr.slot ts)).ignore
      | checkCallTimeouts timeout clock =>
          refine quiet rfl ?_
          rw [state]
          change (checkCallTimeouts cfg timeout clock ts (tr.slot ts)).reflect.ignore = _
          unfold checkCallTimeouts checkInTimeout checkOutTimeout endHbpCall
          split_ifs <;> rfl
      | peerLost => exact absurd rfl linked.1
      | hbpDisconnected => exact absurd rfl linked.2
      | ipscVoice connected data burstType urandom clock =>
          have read : (Event.ipscVoice connected data ts burstType urandom clock).testReading ts =
              some (clock 3) := if_pos rfl
          have foreign : data[gvIpscSeqOff]? ≠ some streamByte := by
            simpa [Event.streamPacket] using other
          have later : now ≤ clock 3 := after (clock 3) read
          rw [read]
          intro ahead
          rw [state]
          exact ipscVoiceReceived_ignore dmr suppresses connected ts burstType urandom tr.shared foreign
            (stays (lt_of_le_of_lt later ahead)) ahead

/-- The reflection tests on a timeslot follow the clock. -/
theorem ClockForward.testReadings {events : List Event} (forward : ClockForward events)
    (ts : Timeslot) : (events.filterMap (Event.testReading ts)).Pairwise (· ≤ ·) := by
  have reading {event : Event} {time : Time} (tested : event.testReading ts = some time) :
      ∃ clock ∈ event.clock, time = clock 3 := by
    cases event with
    | ipscVoice connected data other burstType urandom clock =>
        simp only [Event.testReading, Option.ite_none_right_eq_some] at tested
        exact ⟨clock, rfl, (Option.some.inj tested.2).symm⟩
    | hbpVoice | drain | checkCallTimeouts | peerRegistered | peerLost | hbpDisconnected => cases tested
  refine List.pairwise_filterMap.mpr (forward.between.imp fun ordered one first two second => ?_)
  obtain ⟨oneClock, oneKnown, rfl⟩ := reading first
  obtain ⟨twoClock, twoKnown, rfl⟩ := reading second
  exact ordered oneClock oneKnown twoClock twoKnown 3 3

/-- The packets of a stream arrive at a pace at which its entry does not expire. -/
def Steady (cfg : Config) (ts : Timeslot) (streamByte : UInt8) (events : List Event) : Prop :=
  List.IsChain (fun one two : Time => two - one < cfg.ipscReflectWindow)
    (events.filterMap (Event.streamPacket ts streamByte))

theorem IpscPacket.event_injective (ts : Timeslot) :
    Function.Injective fun packet : IpscPacket => packet.event ts := by
  rintro ⟨⟩ ⟨⟩ same
  obtain ⟨rfl, rfl, -, rfl, rfl, rfl⟩ := Event.ipscVoice.inj same
  rfl

theorem IpscPacket.streamPacket {packet : IpscPacket} {streamByte : UInt8}
    (named : packet.stream = some streamByte) (ts : Timeslot) :
    (packet.event ts).streamPacket ts streamByte = some packet.now := if_pos ⟨rfl, named⟩

theorem IpscPacket.testReading (packet : IpscPacket) (ts : Timeslot) :
    (packet.event ts).testReading ts = some packet.now := if_pos rfl

/-- Only a packet of the stream counts as one. -/
theorem Event.of_streamPacket {ts : Timeslot} {streamByte : UInt8} {event : Event} {time : Time}
    (arrives : event.streamPacket ts streamByte = some time) :
    ∃ packet : IpscPacket, event = packet.event ts ∧ packet.stream = some streamByte ∧
      time = packet.now := by
  cases event with
  | ipscVoice connected data other burstType urandom clock =>
      simp only [streamPacket, Option.ite_none_right_eq_some] at arrives
      obtain ⟨⟨rfl, stream⟩, now⟩ := arrives
      exact ⟨⟨connected, data, burstType, urandom, clock⟩, rfl, stream, (Option.some.inj now).symm⟩
  | hbpVoice | drain | checkCallTimeouts | peerRegistered | peerLost | hbpDisconnected => cases arrives

/-- The test suppresses a packet that arrives before its stream's entry expires. -/
theorem StaysIgnored.judged {cfg : Config} (suppresses : SuppressesEchoes cfg) {ts : Timeslot}
    {packet : IpscPacket} {streamByte : UInt8} (named : packet.stream = some streamByte)
    {last now : Time} {tr : Translator} (stays : StaysIgnored cfg ts streamByte last now tr)
    (after : now ≤ packet.now) (inTime : packet.now - last < cfg.ipscReflectWindow) :
    (reflectionTest cfg packet.data packet.burstType packet.clock (tr.slot ts)).1 = true := by
  have ahead : packet.now < last + cfg.ipscReflectWindow := sub_lt_iff_lt_add'.mp inTime
  have tested := reflectionTest_tested suppresses named packet.burstType packet.clock (tr.slot ts)
  exact tested.verdict.mpr (.inl ⟨_, stays (lt_of_le_of_lt after ahead), ahead⟩)

/-- A packet that the test suppresses, or that does not reach it, is suppressed. -/
theorem suppressed_of_judged (dmr : DmrUtils) {cfg : Config} (suppresses : SuppressesEchoes cfg)
    {ts : Timeslot} {tr : Translator} {packet : IpscPacket}
    (judged : (reflectionTest cfg packet.data packet.burstType packet.clock (tr.slot ts)).1 = true) :
    Suppressed dmr cfg tr (packet.event ts) := by
  rw [suppressed_iff]
  by_cases reaches : ReachesTest cfg packet.connected packet.data packet.burstType packet.clock
      (tr.slot ts)
  · rw [(ipscVoiceReceived_judged dmr suppresses.unlocked ts packet.urandom tr.shared reaches).2 judged]
    simp
  · rw [(ipscVoiceReceived_unjudged dmr ts packet.urandom tr.shared reaches).2]
    simp

/-- Once the test suppresses a header, it suppresses the later packets of its stream through the
terminator, in every run that keeps the links and in which they reach the test. -/
theorem suppressed_through_end (dmr : DmrUtils) {cfg : Config} (suppresses : SuppressesEchoes cfg)
    (ts : Timeslot) {before rest : List Event} {head next : IpscPacket} {streamByte : UInt8}
    (isHead : head.burstType = voiceHead) (named : head.stream = some streamByte)
    (same : next.stream = some streamByte) (connected : head.connected = true)
    (judged : (reflectionTest cfg head.data head.burstType head.clock
      (((translator dmr cfg).run Translator.initial before).1.slot ts)).1 = true)
    (forward : ClockForward (head.event ts :: (rest ++ [next.event ts])))
    (steady : Steady cfg ts streamByte (head.event ts :: (rest ++ [next.event ts])))
    (unended : ∀ event ∈ rest, Unended ts streamByte event)
    (kept : (translator dmr cfg).Meets (fun _ => KeepsEcho cfg ts streamByte) []
      ((translator dmr cfg).run Translator.initial (before ++ [head.event ts])).1 rest) :
    Suppressed dmr cfg
      ((translator dmr cfg).run Translator.initial (before ++ [head.event ts] ++ rest)).1
      (next.event ts) := by
  have current := (legacyPrelude_head cfg named head.clock
    (((translator dmr cfg).run Translator.initial before).1.slot ts)).1
  rw [← isHead] at current
  have start : StaysIgnored cfg ts streamByte head.now head.now
      ((translator dmr cfg).run Translator.initial (before ++ [head.event ts])).1 := by
    have unended : head.burstType ≠ voiceTerm := by
      rw [isHead]
      decide
    rw [Mealy.run_append]
    exact StaysIgnored.renewed suppresses named ⟨connected, current⟩ unended judged
  have ordered := forward.testReadings ts
  rw [List.filterMap_cons_some (head.testReading ts), List.filterMap_append,
    List.filterMap_cons_some (next.testReading ts), List.filterMap_nil] at ordered
  rw [Steady, List.filterMap_cons_some (head.streamPacket named ts), List.filterMap_append,
    List.filterMap_cons_some (next.streamPacket same ts), List.filterMap_nil] at steady
  have among (event : Event) (time : Time) (arrives : event.streamPacket ts streamByte = some time) :
      event.testReading ts = some time := by
    obtain ⟨packet, rfl, -, rfl⟩ := Event.of_streamPacket arrives
    exact packet.testReading ts
  obtain ⟨last, now, stays, after, inTime⟩ := (kept.and_events unended).renewed _
    (StaysIgnored cfg ts streamByte) among
    (by
      intro _ tr event last now time keeps arrives stays after inTime
      obtain ⟨packet, rfl, stream, rfl⟩ := Event.of_streamPacket arrives
      exact StaysIgnored.renewed suppresses stream (keeps.1.tested packet rfl stream)
        (keeps.2 packet rfl stream) (stays.judged suppresses stream after inTime))
    (fun _ tr event last now keeps other stays after =>
      stays.passed suppresses keeps.1.linked other after)
    ordered steady start
  rw [Mealy.run_append]
  exact suppressed_of_judged dmr suppresses (stays.judged suppresses same after inTime)

/-- In the peer mode with reflection suppression and without the call lock, in every run: a header
that echoes a call while it is transmitted is suppressed exactly when it does not slip through, and
once the test suppresses a header, the later packets of its stream are suppressed through the
terminator while the links last and they reach the test. -/
theorem reflection_suppressed_iff (dmr : DmrUtils) {cfg : Config} (suppresses : SuppressesEchoes cfg)
    (ts : Timeslot) :
    (∀ (earlier later : List Event) (sender : Event) (entry : QueueEntry) (head : IpscPacket)
      (streamByte : UInt8), head.stream = some streamByte →
      EchoOf dmr cfg ts earlier sender later entry head →
      ClockForward (earlier ++ sender :: later ++ [head.event ts]) →
      let before := ((translator dmr cfg).run Translator.initial (earlier ++ sender :: later)).1
      Suppressed dmr cfg before (head.event ts) ↔
        ¬ EchoSlips cfg head.connected streamByte head.now (before.slot ts)) ∧
    (∀ (before rest : List Event) (head next : IpscPacket) (streamByte : UInt8),
      head.burstType = voiceHead → head.stream = some streamByte → next.stream = some streamByte →
      head.connected = true →
      (reflectionTest cfg head.data head.burstType head.clock
        (((translator dmr cfg).run Translator.initial before).1.slot ts)).1 = true →
      ClockForward (head.event ts :: (rest ++ [next.event ts])) →
      Steady cfg ts streamByte (head.event ts :: (rest ++ [next.event ts])) →
      (∀ event ∈ rest, Unended ts streamByte event) →
      (translator dmr cfg).Meets (fun _ => KeepsEcho cfg ts streamByte) []
        ((translator dmr cfg).run Translator.initial (before ++ [head.event ts])).1 rest →
      Suppressed dmr cfg
        ((translator dmr cfg).run Translator.initial (before ++ [head.event ts] ++ rest)).1
        (next.event ts)) := by
  constructor
  · intro earlier later sender entry head streamByte named echo forward
    exact echo.suppressed_iff suppresses named forward
  · intro before rest head next streamByte isHead named same connected judged forward steady unended kept
    exact suppressed_through_end dmr suppresses ts isHead named same connected judged forward steady
      unended kept

/-- A peer that drops echoes by the reflection test. -/
def echoCfg : Config where
  ipscMode := .peer
  ipscReflectSuppression := true
  ipscCallLock := false

theorem echoCfg_suppresses : SuppressesEchoes echoCfg := ⟨rfl, rfl, by decide, rfl⟩

/-- The header and a voice frame of a call from HBP. -/
def sentCall : List Event :=
  [.hbpVoice true (masterHead dmrCodec [1, 1, 1, 1] [0, 0, 7] [0, 0, 2]) rtpDraw fun _ => 100,
    .hbpVoice true (masterVoice dmrCodec [1, 1, 1, 1] [0, 0, 7] [0, 0, 2] 0x10) rtpDraw fun _ => 100]

/-- The call's terminator. -/
def sentTerm : Event :=
  .hbpVoice true (masterTerm dmrCodec [1, 1, 1, 1] [0, 0, 7] [0, 0, 2]) rtpDraw fun _ => 100

/-- The first of the call's packets, which waits for its drain. -/
def sentHead : QueueEntry :=
  (((translator dmrCodec echoCfg).run Translator.initial sentCall).1.slot .ts1).tx.queue.getD 0
    ⟨[], [], [], 0, 0⟩

/-- The drain that sends it. -/
def sentDrain : Event := .drain .ts1 fun _ => 100

/-- The header comes back from the upstream master. -/
def returnedHead : IpscPacket where
  connected := true
  data := peerHead dmrCodec 5 [0, 0, 7] [0, 0, 2]
  burstType := voiceHead
  urandom := firstDraw
  clock := fun _ => 101

def returnedVoice : IpscPacket where
  connected := true
  data := peerVoice 5 [0, 0, 7] [0, 0, 2] (List.replicate 19 0)
  burstType := slot1Voice
  urandom := firstDraw
  clock := fun _ => 102

def returnedTerm : IpscPacket where
  connected := true
  data := peerTerm dmrCodec 5 [0, 0, 7] [0, 0, 2]
  burstType := voiceTerm
  urandom := firstDraw
  clock := fun _ => 103

/-- While the call is started its echo is suppressed, from the header to the terminator. -/
theorem reflection_suppressed_iff_echo :
    let head := returnedHead.event .ts1
    let before := sentCall ++ sentDrain :: []
    Suppressed dmrCodec echoCfg ((translator dmrCodec echoCfg).run Translator.initial before).1 head ∧
      Suppressed dmrCodec echoCfg ((translator dmrCodec echoCfg).run Translator.initial
        (before ++ [head] ++ [returnedVoice.event .ts1])).1 (returnedTerm.event .ts1) := by
  intro head before
  obtain ⟨first, later⟩ := reflection_suppressed_iff dmrCodec echoCfg_suppresses .ts1
  have echo : EchoOf dmrCodec echoCfg .ts1 sentCall sentDrain [] sentHead returnedHead :=
    ⟨rfl, by decide +kernel, by decide +kernel, by decide +kernel, ⟨100, rfl, by decide +kernel⟩,
      .inl (by decide +kernel)⟩
  have forward : ClockForward (sentCall ++ sentDrain :: [] ++ [head]) := by
    constructor
    · simp [head, sentCall, sentDrain, returnedHead, IpscPacket.event, Event.clock, monotone_const]
    · simp [head, sentCall, sentDrain, returnedHead, IpscPacket.event, Event.clock]
      norm_num
  have onwards : ClockForward (head :: ([returnedVoice.event .ts1] ++ [returnedTerm.event .ts1])) := by
    constructor
    · simp [head, returnedHead, returnedVoice, returnedTerm, IpscPacket.event, Event.clock,
        monotone_const]
    · simp [head, returnedHead, returnedVoice, returnedTerm, IpscPacket.event, Event.clock]
      norm_num
  refine ⟨(first sentCall [] sentDrain sentHead returnedHead 5 rfl echo forward).mpr fun slips => ?_, ?_⟩
  · have started : (((translator dmrCodec echoCfg).run Translator.initial before).1.slot
        .ts1).inCall.started = true := by decide +kernel
    exact Bool.noConfusion (started.symm.trans slips.unstarted)
  · refine later before [returnedVoice.event .ts1] returnedHead returnedTerm 5 rfl rfl rfl rfl
      (by decide +kernel) onwards ?_ ?_ ?_
    · rw [Steady]
      decide +kernel
    · intro event member packet same _
      rw [List.mem_singleton.mp member] at same
      rw [← IpscPacket.event_injective .ts1 same]
      decide
    · refine ⟨⟨⟨by simp [returnedVoice, IpscPacket.event], by simp [returnedVoice, IpscPacket.event]⟩,
        fun packet same _ => ?_⟩, trivial⟩
      rw [← IpscPacket.event_injective .ts1 same]
      exact ⟨rfl, rfl⟩

/-- The call's terminator has come, three of its packets still wait, and its echo reaches HBP. -/
theorem queued_call_echo_slips :
    let before := sentCall ++ [sentTerm]
    let head := returnedHead.event .ts1
    SuppressesEchoes echoCfg ∧
      EchoOf dmrCodec echoCfg .ts1 before sentDrain [] sentHead returnedHead ∧
      ClockForward (before ++ sentDrain :: [] ++ [head]) ∧
      ¬ Suppressed dmrCodec echoCfg
        ((translator dmrCodec echoCfg).run Translator.initial (before ++ sentDrain :: [])).1 head := by
  intro before head
  have echo : EchoOf dmrCodec echoCfg .ts1 before sentDrain [] sentHead returnedHead :=
    ⟨rfl, by decide +kernel, by decide +kernel, by decide +kernel, ⟨100, rfl, by decide +kernel⟩,
      .inr (by decide +kernel)⟩
  refine ⟨echoCfg_suppresses, echo, ⟨?_, ?_⟩, fun silent => ?_⟩
  · simp [before, head, sentCall, sentTerm, sentDrain, returnedHead, IpscPacket.event, Event.clock,
      monotone_const]
  · simp [before, head, sentCall, sentTerm, sentDrain, returnedHead, IpscPacket.event, Event.clock]
    norm_num
  · exact silent .ts1 (.openStream firstDraw.val [0, 0, 0, 0, 0, 2, 0, 0, 7]) (by decide +kernel) trivial

end Ipsc2Hbp
