import Ipsc2Hbp.Proof.Rejections

namespace Ipsc2Hbp
open BigEndian

/-- Two states of a timeslot have the same calls in both directions and the same waiting packets. -/
structure Slot.SameCalls (after before : Slot) : Prop where
  outStreamId : after.outCall.streamId = before.outCall.streamId
  outLc : after.outCall.lc = before.outCall.lc
  outEmbLc : after.outCall.embLc = before.outCall.embLc
  outFramePos : after.outCall.framePos = before.outCall.framePos
  outIpscStreamByte : after.outCall.ipscStreamByte = before.outCall.ipscStreamByte
  inLc : after.inCall.lc = before.inCall.lc
  inEmbLc : after.inCall.embLc = before.inCall.embLc
  inHbpStream : after.inCall.hbpStream = before.inCall.hbpStream
  inStreamId : after.inCall.streamId = before.inCall.streamId
  inStarted : after.inCall.started = before.inCall.started
  queue : after.tx.queue = before.tx.queue

/-- An IPSC header of the legacy flow names another stream byte than the one that is recorded. -/
def SlotEvent.ChangesStreamByte (cfg : Config) (slot : Slot) : SlotEvent → Prop
  | .ipscVoice _ data burstType _ _ =>
      cfg.legacyFlow = true ∧ burstType = voiceHead ∧
        ∃ streamByte, data[gvIpscSeqOff]? = some streamByte ∧
          slot.outCall.ipscStreamByte ≠ some streamByte
  | .hbpFrame .. | .drain _ | .checkCallTimeouts .. | .peerLost | .hbpDisconnected => False

/-- The callback brings the timeslot an IPSC header of the legacy flow with another stream byte. -/
def ChangesStreamByte (cfg : Config) (ts : Timeslot) (tr : Translator) (event : Event) : Prop :=
  ∃ part ∈ event.atSlot ts, part.ChangesStreamByte cfg (tr.slot ts)

/-- The stream test in front of the lock keeps the calls of every packet but such a header. -/
theorem legacyPrelude_sameCalls_iff (cfg : Config) (connected : Bool) (data : Bytes)
    (burstType : UInt8) (urandom : StreamId) (clock : Clock) (slot : Slot) (lock : CallLock) :
    ({ (legacyPrelude cfg data burstType clock slot).2 with lock := lock } : Slot).SameCalls slot ↔
      ¬ (SlotEvent.ipscVoice connected data burstType urandom clock).ChangesStreamByte cfg slot := by
  have ways := legacyPrelude_cases cfg data burstType clock slot
  generalize legacyPrelude cfg data burstType clock slot = prelude at ways
  rcases prelude with ⟨dropped, after⟩
  cases ways with
  | kept notHead =>
      apply iff_of_true
      · exact ⟨rfl, rfl, rfl, rfl, rfl, rfl, rfl, rfl, rfl, rfl, rfl⟩
      · rintro ⟨legacy, head, streamByte, stream, -⟩
        exact notHead legacy (by rw [stream]; rfl) head
  | stale legacy notHead closed =>
      apply iff_of_true
      · exact ⟨rfl, rfl, rfl, rfl, rfl, rfl, rfl, rfl, rfl, rfl, rfl⟩
      · rintro ⟨-, head, -⟩
        exact notHead head
  | recorded streamByte legacy stream head same =>
      constructor
      · rintro calls ⟨-, -, named, found, changed⟩
        obtain rfl := Option.some.inj (stream.symm.trans found)
        exact changed calls.outIpscStreamByte.symm
      · intro unchanged
        have recorded : some streamByte = slot.outCall.ipscStreamByte := by
          by_contra changed
          exact unchanged ⟨legacy, head, streamByte, stream, Ne.symm changed⟩
        exact ⟨rfl, rfl, rfl, rfl, recorded, rfl, rfl, rfl, rfl, rfl, rfl⟩
  | restarted streamByte legacy stream head opened changed =>
      apply iff_of_false
      · intro calls
        exact changed calls.outIpscStreamByte.symm
      · exact fun unchanged => unchanged ⟨legacy, head, streamByte, stream, changed⟩

/-- A packet that the lock rejects is forwarded in no form, and the calls of its timeslot go on as
they were, exactly when it is no legacy IPSC header with another stream byte. -/
theorem rejected_keeps_calls_iff (dmr : DmrUtils) (cfg : Config) (ts : Timeslot) (tr : Translator)
    (event : Event) (rejected : Rejected cfg ts tr event) :
    let result := Translator.step dmr cfg tr event
    (result.2 = [] ∧ (result.1.slot ts).SameCalls (tr.slot ts)) ↔
      ¬ ChangesStreamByte cfg ts tr event := by
  intro result
  have silent : result.2 = [] := (rejected.dropped dmr).1
  obtain ⟨part, seen, rejected⟩ := rejected
  obtain ⟨lock, left⟩ := rejected.slotStep_eq dmr ts tr.shared
  have state : result.1.slot ts = { part.asked cfg (tr.slot ts) with lock := lock } := by
    rw [(Translator.step_seen dmr cfg tr seen).1, left]
  have here : ChangesStreamByte cfg ts tr event ↔ part.ChangesStreamByte cfg (tr.slot ts) := by
    constructor
    · rintro ⟨other, member, changes⟩
      obtain rfl := Option.some.inj (seen.symm.trans member)
      exact changes
    · exact fun changes => ⟨part, seen, changes⟩
  rw [and_iff_right silent, state, here]
  cases part with
  | ipscVoice connected data burstType urandom clock => apply legacyPrelude_sameCalls_iff
  | hbpFrame | drain | checkCallTimeouts | peerLost | hbpDisconnected =>
      exact iff_of_true ⟨rfl, rfl, rfl, rfl, rfl, rfl, rfl, rfl, rfl, rfl, rfl⟩ id

/-- The repeater's header meets the master's call, which goes on. -/
theorem rejected_keeps_calls_iff_lateHeader :
    let state := ((translator dmrCodec {}).run Translator.initial masterFirst).1
    (state.slot .ts1).inCall.lc.isSome = true ∧
      ((Translator.step dmrCodec {} state lateHeader).1.slot .ts1).SameCalls (state.slot .ts1) := by
  have rejected : Rejected {} .ts1 ((translator dmrCodec {}).run Translator.initial masterFirst).1
      lateHeader :=
    ⟨_, rfl, _, rfl, by decide +kernel⟩
  have kept := rejected_keeps_calls_iff dmrCodec {} .ts1 _ lateHeader rejected
  refine ⟨by decide +kernel, (kept.mpr ?_).2⟩
  rintro ⟨part, seen, changes⟩
  obtain rfl := Option.some.inj (seen : some _ = some part)
  exact Bool.noConfusion changes.1

/-- The loader's defaults in the legacy flow. -/
def legacyDefaults : Config := { compatPacketFlow := .legacyAmbe }

/-- A header of stream 7 is rejected during the master's call. Then stream 5 opens a call. -/
def rejectedBefore : List Event :=
  masterFirst ++
    [.ipscVoice true (peerHead dmrCodec 7 [0, 0, 9] [0, 0, 2]) .ts1 voiceHead firstDraw fun _ => 100,
      .hbpVoice true (masterTerm dmrCodec [1, 1, 1, 1] [0, 0, 7] [0, 0, 2]) rtpDraw fun _ => 100,
      .ipscVoice true (peerHead dmrCodec 5 [0, 0, 8] [0, 0, 2]) .ts1 voiceHead firstDraw fun _ => 101]

/-- A header of the rejected stream comes again. -/
def rejectedAgain : Event :=
  .ipscVoice true (peerHead dmrCodec 7 [0, 0, 9] [0, 0, 2]) .ts1 voiceHead firstDraw fun _ => 101

/-- The lock rejects the header, and the open call is closed all the same. -/
theorem rejected_closes_call :
    let state := ((translator dmrCodec legacyDefaults).run Translator.initial rejectedBefore).1
    let after := (Translator.step dmrCodec legacyDefaults state rejectedAgain).1
    Rejected legacyDefaults .ts1 state rejectedAgain ∧
      (state.slot .ts1).outCall.streamId = some firstDraw.val ∧
      (after.slot .ts1).outCall.streamId = none ∧
      ¬ (after.slot .ts1).SameCalls (state.slot .ts1) := by
  intro state after
  have opened : (state.slot .ts1).outCall.streamId = some firstDraw.val := by decide +kernel
  have closed : (after.slot .ts1).outCall.streamId = none := by decide +kernel
  refine ⟨⟨_, rfl, _, rfl, by decide +kernel⟩, opened, closed, fun calls => ?_⟩
  have same := calls.outStreamId
  rw [opened, closed] at same
  cases same

end Ipsc2Hbp
