import Mathlib.Tactic.Linarith
import Ipsc2Hbp.Proof.CallOpenings
import Ipsc2Hbp.Proof.ShortVoice

namespace Ipsc2Hbp
open BigEndian

/-- A call is open in the direction, as `check_call_timeouts` asks. -/
def callOpen (direction : Direction) (slot : Slot) : Bool :=
  match direction with
  | .ipsc => slot.outCall.streamId.isSome
  | .hbp => slot.inCall.lc.isSome

/-- The time of the direction's last packet, as `check_call_timeouts` reads it. -/
def lastPkt (direction : Direction) (slot : Slot) : Time :=
  match direction with
  | .ipsc => slot.outCall.lastPkt
  | .hbp => slot.inCall.lastPkt

/-- The arrival of a packet that the handler of the direction takes up, whatever becomes of it. -/
def SlotEvent.heard : Direction → SlotEvent → Option Time
  | .ipsc, .ipscVoice connected _ _ _ clock => if connected then some (clock 0) else none
  | .hbp, .hbpFrame _ _ clock => some (clock 0)
  | _, _ => none

/-- The arrival of a packet that no stream filter, call lock, reflection test or length check of the
direction rejects. -/
def SlotEvent.accepted (cfg : Config) (slot : Slot) : Direction → SlotEvent → Option Time
  | .ipsc, .ipscVoice connected data burstType _ clock =>
      if connected = true ∧ (ipscGate cfg data burstType clock slot).1 = false ∧
          (burstType = voiceHead ∨ burstType = voiceTerm ∨ 52 ≤ data.length) then some (clock 0)
      else none
  | .hbp, .hbpFrame frame _ clock =>
      let test := (hbpLockPacket frame clock).test cfg { slot with inCall.lastPkt := clock 0 }
      if test.1 = false ∧ legacyHbpStreamDrop cfg frame test.2 = false then some (clock 0) else none
  | _, _ => none

/-- The arrivals on a timeslot and direction in a run. -/
def heardPackets (ts : Timeslot) (direction : Direction) (events : List Event) : List Time :=
  events.filterMap fun event => (event.atSlot ts).bind (SlotEvent.heard direction)

/-- The arrivals of the accepted packets. -/
def acceptedPackets (dmr : DmrUtils) (cfg : Config) (ts : Timeslot) (direction : Direction)
    (events : List Event) : List Time :=
  (translator dmr cfg).shown
    (fun tr event => (event.atSlot ts).bind (SlotEvent.accepted cfg (tr.slot ts) direction))
    Translator.initial events

/-- The direction's call has no state left. -/
structure OutCleared (outCall : OutCall) : Prop where
  streamId : outCall.streamId = none
  lc : outCall.lc = none
  embLc : outCall.embLc = none

structure InCleared (inCall : InCall) : Prop where
  lc : inCall.lc = none
  embLc : inCall.embLc = none
  hbpStream : inCall.hbpStream = none
  srcSub : inCall.srcSub = none
  dstGroup : inCall.dstGroup = none
  started : inCall.started = false

def CallCleared (slot : Slot) : Direction → Prop
  | .ipsc => OutCleared slot.outCall
  | .hbp => InCleared slot.inCall

/-- The direction's call is as it was. -/
def SameCall (after before : Slot) : Direction → Prop
  | .ipsc => after.outCall = before.outCall
  | .hbp => after.inCall = before.inCall

/-- The check clears a call without accepted packets since a time that the timeout leaves behind, and
keeps one with an accepted packet within the timeout. -/
structure ReleasesHung (packets : List Time) (timeout now : Time) (direction : Direction)
    (before after : Slot) : Prop where
  released : ∀ since, (∀ packet ∈ packets, packet ≤ since) → since + timeout < now →
    CallCleared after direction
  kept : ∀ packet ∈ packets, now - packet ≤ timeout → SameCall after before direction

/-- The prelude, the tests and the burst of an IPSC packet leave its arrival. -/
theorem ipscVoiceReceived_lastPkt (dmr : DmrUtils) (cfg : Config) (data : Bytes) (ts : Timeslot)
    (burstType : UInt8) (urandom : StreamId) (clock : Clock) (shared : Shared) (slot : Slot) :
    (ipscVoiceReceived dmr cfg true data ts burstType urandom clock shared slot).2.1.outCall.lastPkt =
      clock 0 := by
  rw [ipscVoiceReceived_eq]
  have stamped : (legacyPrelude cfg data burstType clock slot).2.outCall.lastPkt = clock 0 := by
    have ways := legacyPrelude_cases cfg data burstType clock slot
    generalize legacyPrelude cfg data burstType clock slot = prelude at ways
    rcases prelude with ⟨dropped, after⟩
    cases ways with
    | kept | stale | recorded | restarted => rfl
  have gate := ipscGate_cases cfg data burstType clock slot
  generalize ipscGate cfg data burstType clock slot = passed at gate
  rcases passed with ⟨dropped, after⟩
  cases gate with
  | stale | blocked | suppressed => exact stamped
  | admitted lock reflect =>
      have outcome := sendBurst_cases dmr cfg ts data burstType urandom (clock 5) (shared.learn data)
        { (legacyPrelude cfg data burstType clock slot).2 with
          lock := lock, reflect := reflect, ipscBusyLast := clock 4 }
      refine Eq.trans ?_ stamped
      simp only [Bool.false_eq_true, if_false]
      generalize (sendBurst cfg ts (gvSrcSub data) (gvDstGroup data) burstType (clock 5)
        (shared.learn data) _).2 = sent at outcome ⊢
      rcases sent with ⟨after, actions⟩
      cases outcome with
      | ignored | outOfRange | headOpened | headRepeated | ended | voiceSent | enteredLate
      | enteredSilent => rfl

/-- A frame leaves its arrival. -/
theorem hbpFrameReceived_lastPkt (dmr : DmrUtils) (cfg : Config) (frame : HbpFrame) (draw : RtpDraw)
    (clock : Clock) (shared : Shared) (slot : Slot) :
    (hbpFrameReceived dmr cfg frame draw clock shared slot).2.1.inCall.lastPkt = clock 0 := by
  obtain ⟨blocked, lock, -, received⟩ := hbpFrameReceived_cases dmr cfg frame draw clock shared slot
  rw [received]
  cases blocked with
  | true => rfl
  | false =>
      simp only [Bool.false_eq_true, if_false]
      have outcome := hbpAdmitted_cases dmr cfg frame draw clock shared
        { slot with inCall.lastPkt := clock 0, lock := lock }
      generalize hbpAdmitted dmr cfg frame draw clock shared
        { slot with inCall.lastPkt := clock 0, lock := lock } = result at outcome
      have continues {after before : InCall} (goes : after.Continues before)
          (stamped : before.lastPkt = clock 0) : after.lastPkt = clock 0 := by
        obtain ⟨rtpSeq, rtpTs, started, rfl⟩ := goes
        exact stamped
      cases outcome with
      | foreignTerm | headMerged | voiceIgnored | endedSilent => rfl
      | headOpened opened head fresh waits recorded =>
          rw [recorded]
          rfl
      | headStarted opened head fresh atOnce recorded =>
          exact continues (emitHbpIpscStart_continues ..) (by rw [recorded]; rfl)
      | ended =>
          change (sendHbpTerm dmr cfg frame clock shared _).1.inCall.lastPkt = clock 0
          unfold sendHbpTerm
          rw [generatePacket_inCall]
          rfl
      | voiceContinued => exact continues (continueVoice_continues ..) rfl
      | voiceOpened opened notHead notTerm closed flow recorded =>
          exact continues (continueVoice_continues ..) (by rw [recorded]; rfl)

/-- A packet that is heard stamps its direction. -/
theorem slotStep_heard (dmr : DmrUtils) (cfg : Config) (ts : Timeslot) (shared : Shared) (slot : Slot)
    {direction : Direction} {part : SlotEvent} {packet : Time}
    (heard : part.heard direction = some packet) :
    lastPkt direction (slotStep dmr cfg ts shared slot part).2.1 = packet := by
  cases part with
  | ipscVoice connected data burstType urandom clock =>
      cases direction with
      | hbp => cases heard
      | ipsc =>
          simp only [SlotEvent.heard, Option.ite_none_right_eq_some, Option.some.injEq] at heard
          obtain ⟨connection, rfl⟩ := heard
          rw [connection]
          exact ipscVoiceReceived_lastPkt ..
  | hbpFrame frame draw clock =>
      cases direction with
      | ipsc => cases heard
      | hbp =>
          cases heard
          exact hbpFrameReceived_lastPkt ..
  | drain | checkCallTimeouts | peerLost | hbpDisconnected => cases direction <;> cases heard

/-- Every other step leaves the direction's call and its stamp, or closes the call. -/
theorem slotStep_unheard (dmr : DmrUtils) (cfg : Config) (ts : Timeslot) (shared : Shared) (slot : Slot)
    {direction : Direction} {part : SlotEvent} (unheard : part.heard direction = none) :
    callOpen direction (slotStep dmr cfg ts shared slot part).2.1 = false ∨
      SameCall (slotStep dmr cfg ts shared slot part).2.1 slot direction := by
  cases part with
  | ipscVoice connected data burstType urandom clock =>
      right
      cases direction with
      | hbp =>
          exact (ipscVoiceReceived_inbound dmr cfg connected data ts burstType urandom clock shared
            slot).1
      | ipsc =>
          have unconnected : connected = false := by
            cases connected with
            | false => rfl
            | true => cases unheard
          rw [unconnected]
          rfl
  | hbpFrame frame draw clock =>
      cases direction with
      | hbp => cases unheard
      | ipsc => exact .inr (hbpFrameReceived_outbound dmr cfg frame draw clock shared slot).1
  | drain clock =>
      right
      cases direction with
      | hbp => exact (drainHbpToIpscQueue_cases cfg clock slot).inCall
      | ipsc => exact (drainHbpToIpscQueue_cases cfg clock slot).side.outCall
  | checkCallTimeouts timeout clock =>
      obtain ⟨out, into⟩ := checkCallTimeouts_frame cfg timeout clock ts slot
      cases direction with
      | ipsc =>
          rcases out with same | closed
          · exact .inr same
          · exact .inl (Option.isSome_eq_false_iff.mpr (by rw [Option.isNone_iff_eq_none]; exact closed))
      | hbp =>
          rcases into with same | reset
          · exact .inr same
          · left
            change (checkCallTimeouts cfg timeout clock ts slot).inCall.lc.isSome = false
            rw [reset]
            rfl
  | peerLost | hbpDisconnected => cases direction <;> exact .inl rfl

/-- The stamp of an open call is the arrival of the packet that was heard last. -/
theorem run_lastPkt (dmr : DmrUtils) (cfg : Config) (ts : Timeslot) (direction : Direction)
    (events : List Event) :
    let slot := ((translator dmr cfg).run Translator.initial events).1.slot ts
    callOpen direction slot = true →
      (heardPackets ts direction events).getLast? = some (lastPkt direction slot) := by
  induction events using List.reverseRecOn with
  | nil =>
      intro slot opened
      cases direction <;> cases opened
  | append_singleton earlier event ih =>
      rw [Mealy.run_append, heardPackets, List.filterMap_append]
      change callOpen direction ((Translator.step dmr cfg _ event).1.slot ts) = true → _
      change _ → _ = some (lastPkt direction ((Translator.step dmr cfg _ event).1.slot ts))
      intro opened
      cases seen : event.atSlot ts with
      | none =>
          rw [(Translator.step_unseen dmr cfg _ seen).1] at opened ⊢
          simpa [seen, heardPackets] using ih opened
      | some part =>
          rw [(Translator.step_seen dmr cfg _ seen).1] at opened ⊢
          cases heard : part.heard direction with
          | some packet =>
              rw [slotStep_heard dmr cfg ts _ _ heard]
              simp [seen, heard]
          | none =>
              rcases slotStep_unheard dmr cfg ts
                ((translator dmr cfg).run Translator.initial earlier).1.shared
                (((translator dmr cfg).run Translator.initial earlier).1.slot ts) heard with
                closed | same
              · exact absurd (closed.symm.trans opened) Bool.false_ne_true
              · have kept : callOpen direction
                    (((translator dmr cfg).run Translator.initial earlier).1.slot ts) = true ∧
                    lastPkt direction (slotStep dmr cfg ts
                      ((translator dmr cfg).run Translator.initial earlier).1.shared
                      (((translator dmr cfg).run Translator.initial earlier).1.slot ts) part).2.1 =
                    lastPkt direction
                      (((translator dmr cfg).run Translator.initial earlier).1.slot ts) := by
                  cases direction with
                  | ipsc => exact ⟨(congrArg (·.streamId.isSome) same).symm.trans opened,
                      congrArg OutCall.lastPkt same⟩
                  | hbp => exact ⟨(congrArg (·.lc.isSome) same).symm.trans opened,
                      congrArg InCall.lastPkt same⟩
                rw [kept.2]
                simpa [seen, heard, heardPackets] using ih kept.1

/-- The check clears an open call exactly when its stamp is older than the timeout. -/
theorem checkCallTimeouts_exact (cfg : Config) (timeout : Time) (clock : Clock) (ts : Timeslot)
    {direction : Direction} {slot : Slot} (opened : callOpen direction slot = true) :
    (timeout < clock 0 - lastPkt direction slot →
      CallCleared (checkCallTimeouts cfg timeout clock ts slot) direction) ∧
    (clock 0 - lastPkt direction slot ≤ timeout →
      SameCall (checkCallTimeouts cfg timeout clock ts slot) slot direction) := by
  have into (before : Slot) : (checkInTimeout cfg timeout (clock 0) (clock (timeoutReading ts + 1))
      before).outCall = before.outCall := by
    unfold checkInTimeout
    split <;> rfl
  have out (before : Slot) : (checkOutTimeout cfg timeout (clock 0) (clock (timeoutReading ts))
      before).inCall = before.inCall := by
    unfold checkOutTimeout
    split <;> rfl
  cases direction with
  | ipsc =>
      simp only [callOpen, lastPkt, CallCleared, SameCall, checkCallTimeouts, into] at opened ⊢
      unfold checkOutTimeout
      refine ⟨fun late => ?_, fun early => ?_⟩
      · rw [opened, decide_eq_true late]
        exact ⟨rfl, rfl, rfl⟩
      · rw [decide_eq_false (not_lt_of_ge early), Bool.and_false]
        rfl
  | hbp =>
      simp only [callOpen, lastPkt, CallCleared, SameCall, checkCallTimeouts] at opened ⊢
      unfold checkInTimeout
      rw [out, opened, Bool.true_and]
      refine ⟨fun late => ?_, fun early => ?_⟩
      · rw [decide_eq_true late]
        exact ⟨rfl, rfl, rfl, rfl, rfl, rfl⟩
      · rw [decide_eq_false (not_lt_of_ge early)]
        exact out slot

/-- A call that is cleared is not open as it was. -/
theorem CallCleared.not_same {after before : Slot} {direction : Direction}
    (cleared : CallCleared after direction) (opened : callOpen direction before = true) :
    ¬ SameCall after before direction := by
  intro same
  cases direction with
  | ipsc =>
      have closed := (congrArg OutCall.streamId same).symm.trans cleared.streamId
      simp [callOpen, closed] at opened
  | hbp =>
      have closed := (congrArg InCall.lc same).symm.trans cleared.lc
      simp [callOpen, closed] at opened

/-- Times before a limit lie up to a time before it. -/
theorem exists_since {limit : Time} {packets : List Time} (old : ∀ packet ∈ packets, packet < limit) :
    ∃ since < limit, ∀ packet ∈ packets, packet ≤ since := by
  induction packets with
  | nil => exact ⟨limit - 1, sub_one_lt limit, by simp⟩
  | cons packet rest ih =>
      obtain ⟨first, later⟩ := List.forall_mem_cons.mp old
      obtain ⟨since, before, all⟩ := ih later
      refine ⟨max packet since, max_lt first before, List.forall_mem_cons.mpr ⟨le_max_left .., ?_⟩⟩
      intro other member
      exact (all other member).trans (le_max_right ..)

/-- In every run the check releases a hung call and keeps a live one exactly when the packet that was
heard last on the timeslot and direction, accepted or rejected, lies within the timeout just when some
accepted packet does. -/
theorem hung_call_released_iff (dmr : DmrUtils) (cfg : Config) (events : List Event) (ts : Timeslot)
    (direction : Direction) (timeout : Time) (clock : Clock)
    (opened : callOpen direction
      (((translator dmr cfg).run Translator.initial events).1.slot ts) = true) :
    let before := ((translator dmr cfg).run Translator.initial events).1
    let after := (Translator.step dmr cfg before (.checkCallTimeouts timeout clock)).1
    let packets := acceptedPackets dmr cfg ts direction events
    ReleasesHung packets timeout (clock 0) direction (before.slot ts) (after.slot ts) ↔
      ((∃ packet ∈ packets, clock 0 - packet ≤ timeout) ↔
        ∃ packet ∈ (heardPackets ts direction events).getLast?, clock 0 - packet ≤ timeout) := by
  intro before after packets
  have last : (heardPackets ts direction events).getLast? =
      some (lastPkt direction (before.slot ts)) :=
    run_lastPkt dmr cfg ts direction events opened
  obtain ⟨clears, keeps⟩ := checkCallTimeouts_exact cfg timeout clock ts opened
  rw [last]
  simp only [Option.mem_some_iff, exists_eq_left']
  change ReleasesHung packets timeout (clock 0) direction (before.slot ts)
    (checkCallTimeouts cfg timeout clock ts (before.slot ts)) ↔ _
  constructor
  · intro law
    constructor
    · rintro ⟨packet, member, recent⟩
      by_contra late
      exact (clears (not_le.mp late)).not_same opened (law.kept packet member recent)
    · intro recent
      by_contra none
      have old : ∀ packet ∈ packets, packet < clock 0 - timeout := by
        intro packet member
        have far := not_le.mp fun near => none ⟨packet, member, near⟩
        linarith
      obtain ⟨since, late, all⟩ := exists_since old
      exact (law.released since all (by linarith)).not_same opened (keeps recent)
  · intro same
    constructor
    · intro since old late
      apply clears
      by_contra near
      obtain ⟨packet, member, recent⟩ := same.mpr (not_lt.mp near)
      have := old packet member
      linarith
    · intro packet member recent
      exact keeps (same.mp ⟨packet, member, recent⟩)

/-- After its header the repeater's call is silent for eleven seconds. -/
theorem hung_call_released_iff_silent :
    let before := ((translator dmrCodec {}).run Translator.initial openedCall).1
    let after := (Translator.step dmrCodec {} before (.checkCallTimeouts 10 fun _ => 111)).1
    ReleasesHung (acceptedPackets dmrCodec {} .ts1 .ipsc openedCall) 10 111 .ipsc (before.slot .ts1)
      (after.slot .ts1) := by
  have packets : acceptedPackets dmrCodec {} .ts1 .ipsc openedCall = [100] := by decide +kernel
  have last : (heardPackets .ts1 .ipsc openedCall).getLast? = some 100 := by decide +kernel
  refine (hung_call_released_iff dmrCodec {} openedCall .ts1 .ipsc 10 (fun _ => 111)
    (by decide +kernel)).mpr ?_
  rw [packets, last]
  simp

/-- Voice packets that are cut off follow the header. -/
def cutVoiceRun : List Event :=
  openedCall ++
    [.ipscVoice true (peerVoice 5 [0, 0, 9] [0, 0, 1] (List.replicate 18 0)) .ts1 slot1Voice firstDraw
      fun _ => 109]

/-- No packet was accepted for fifteen seconds, and the call is kept. -/
theorem hung_call_kept :
    let before := ((translator dmrCodec {}).run Translator.initial cutVoiceRun).1
    let after := (Translator.step dmrCodec {} before (.checkCallTimeouts 10 fun _ => 115)).1
    let packets := acceptedPackets dmrCodec {} .ts1 .ipsc cutVoiceRun
    packets = [100] ∧ (before.slot .ts1).outCall.streamId = some firstDraw.val ∧
      (after.slot .ts1).outCall.streamId = some firstDraw.val ∧
      ¬ ReleasesHung packets 10 115 .ipsc (before.slot .ts1) (after.slot .ts1) := by
  intro before after packets
  have only : packets = [100] := by decide +kernel
  have opened : (after.slot .ts1).outCall.streamId = some firstDraw.val := by decide +kernel
  refine ⟨only, by decide +kernel, opened, fun law => ?_⟩
  have cleared : OutCleared (after.slot .ts1).outCall :=
    law.released 100 (by rw [only]; simp) (by norm_num)
  rw [cleared.streamId] at opened
  cases opened

end Ipsc2Hbp
