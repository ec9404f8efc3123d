import Ipsc2Hbp.Construction.Core
import Ipsc2Hbp.Library.Precedence
import Ipsc2Hbp.Proof.Dmrd

namespace Ipsc2Hbp
open BigEndian

/-- The stream ID is the one that was put into the frame. -/
theorem dmrdFrame_stream (cfg : Config) (seq : UInt8) {srcSub dstGroup streamId : Bytes}
    (srcWide : srcSub.length = 3) (dstWide : dstGroup.length = 3) (streamWide : streamId.length = 4)
    (flags : UInt8) (payload : Bytes) :
    (HbpFrame.read (dmrdFrame cfg seq srcSub dstGroup flags streamId payload)).stream = streamId := by
  obtain ⟨s0, s1, s2, d0, d1, d2, r0, r1, r2, r3, i0, i1, i2, i3, rfl, rfl, rfl, layout⟩ :=
    dmrdFrame_layout cfg seq srcWide dstWide streamWide flags payload
  rw [layout]
  rfl

/-- Every frame of the actions belongs to a known stream or to one that they have opened. -/
def Supplied : (Bytes → Prop) → List Action → Prop
  | _, [] => True
  | known, .openStream streamId _ :: rest =>
      Supplied (fun stream => stream = streamId ∨ known stream) rest
  | known, .sendDmrd dmrd :: rest => known (HbpFrame.read dmrd).stream ∧ Supplied known rest
  | known, _ :: rest => Supplied known rest

theorem Supplied.mono {known wider : Bytes → Prop} (implies : ∀ stream, known stream → wider stream)
    {actions : List Action} (supplied : Supplied known actions) : Supplied wider actions := by
  induction actions generalizing known wider with
  | nil => trivial
  | cons action rest ih =>
      cases action with
      | openStream streamId lc => exact ih (fun stream => Or.imp_right (implies stream)) supplied
      | sendDmrd dmrd => exact ⟨implies _ supplied.1, ih implies supplied.2⟩
      | generate | queueFull | slotBusy | sendToPeer | raised => exact ih implies supplied

/-- The HBP side sends no frame to the master. -/
theorem supplied_of_fromHbp {dmr : DmrUtils} {known : Bytes → Prop} {actions : List Action}
    (fromHbp : ∀ action ∈ actions, action.FromHbp dmr) : Supplied known actions := by
  induction actions with
  | nil => trivial
  | cons action rest ih =>
      have tail := ih fun other member => fromHbp other (List.mem_cons_of_mem _ member)
      have first := fromHbp action List.mem_cons_self
      cases action with
      | openStream | sendDmrd => exact first.elim
      | generate | queueFull | slotBusy | sendToPeer | raised => exact tail

theorem supplied_sendFrames {known : Bytes → Prop} {frame : UInt8 → Bytes}
    (each : ∀ seq, known (HbpFrame.read (frame seq)).stream) (count : Nat) (seq : UInt8) :
    Supplied known (sendFrames frame count seq) := by
  induction count generalizing seq with
  | zero => trivial
  | succ count ih => exact ⟨each seq, ih (seq + 1)⟩

/-- The stream ID of the slot has its width. -/
def OutCall.Wide (outCall : OutCall) : Prop :=
  ∀ stream, outCall.streamId = some stream → stream.length = 4

/-- A handler sends frames of the open stream and of the streams that it opens itself, and leaves no
other stream open. -/
structure StreamLaw (before after : Slot) (actions : List Action) : Prop where
  supplied : Supplied (fun stream => before.outCall.streamId = some stream) actions
  opened : ∀ stream, after.outCall.streamId = some stream → before.outCall.streamId = some stream ∨
    (stream.length = 4 ∧ ∃ lc, Action.openStream stream lc ∈ actions)

/-- A handler that opens no stream and sends no frame may keep or close the stream. -/
theorem StreamLaw.silent {dmr : DmrUtils} {before after : Slot} {actions : List Action}
    (fromHbp : ∀ action ∈ actions, action.FromHbp dmr)
    (stream : after.outCall.streamId = none ∨ after.outCall.streamId = before.outCall.streamId) :
    StreamLaw before after actions := by
  refine ⟨supplied_of_fromHbp fromHbp, fun streamId opened => .inl ?_⟩
  rcases stream with closed | same
  · rw [closed] at opened
    cases opened
  · rw [← same, opened]

/-- The stream may have been closed before. -/
theorem StreamLaw.after_close {before middle after : Slot} {actions : List Action}
    (law : StreamLaw middle after actions)
    (stream : middle.outCall.streamId = none ∨
      middle.outCall.streamId = before.outCall.streamId) : StreamLaw before after actions := by
  have implies : ∀ streamId, middle.outCall.streamId = some streamId →
      before.outCall.streamId = some streamId := by
    intro streamId opened
    rcases stream with closed | same
    · rw [closed] at opened
      cases opened
    · rw [← same, opened]
  exact ⟨law.supplied.mono implies, fun streamId opened =>
    (law.opened streamId opened).imp_left (implies streamId)⟩

/-- A packet that is let in keeps the law. -/
theorem BurstOutcome.streams {dmr : DmrUtils} {cfg : Config} {ts : Timeslot} {data : Bytes}
    {burstType : UInt8} {urandom : StreamId} {now : Time} {seq : UInt8} {slot after : Slot}
    {actions : List Action} (long : 31 ≤ data.length) (wide : slot.outCall.Wide)
    (outcome : BurstOutcome dmr cfg ts data burstType urandom now seq slot after actions) :
    StreamLaw slot after actions := by
  have src := gvSrcSub_length long
  have dst := gvDstGroup_length long
  cases outcome with
  | ignored | outOfRange => exact ⟨trivial, fun _ opened => .inl opened⟩
  | headOpened =>
      have sent (seq : UInt8) := dmrdFrame_stream cfg seq src dst urandom.property
      refine ⟨supplied_sendFrames (fun seq => .inl (sent seq _ _)) _ _, fun stream opened => .inr ?_⟩
      obtain rfl := Option.some.inj opened
      exact ⟨urandom.property, _, List.mem_cons_self⟩
  | headRepeated streamId head opened =>
      have sent := dmrdFrame_stream cfg seq src dst (wide streamId opened)
      refine ⟨⟨opened.trans (congrArg some (sent _ _).symm), trivial⟩, fun stream still => .inl ?_⟩
      exact opened.trans still
  | ended streamId term opened =>
      have sent := dmrdFrame_stream cfg seq src dst (wide streamId opened)
      refine ⟨⟨opened.trans (congrArg some (sent _ _).symm), trivial⟩, fun stream still => ?_⟩
      cases still
  | voiceSent streamId voice opened =>
      have sent := dmrdFrame_stream cfg seq src dst (wide streamId opened)
      exact ⟨⟨opened.trans (congrArg some (sent _ _).symm), trivial⟩, fun stream still => .inl still⟩
  | enteredLate =>
      have sent := dmrdFrame_stream cfg seq src dst urandom.property
      refine ⟨⟨.inl (sent _ _), trivial⟩, fun stream opened => .inr ?_⟩
      obtain rfl := Option.some.inj opened
      exact ⟨urandom.property, _, List.mem_cons_self⟩
  | enteredSilent =>
      refine ⟨trivial, fun stream opened => .inr ?_⟩
      obtain rfl := Option.some.inj opened
      exact ⟨urandom.property, _, List.mem_cons_self⟩

/-- A packet from IPSC keeps the law. -/
theorem ipscVoiceReceived_streams (dmr : DmrUtils) (cfg : Config) (connected : Bool) {data : Bytes}
    (long : 31 ≤ data.length) (ts : Timeslot) (burstType : UInt8) (urandom : StreamId) (clock : Clock)
    (shared : Shared) {slot : Slot} (wide : slot.outCall.Wide) :
    let result := ipscVoiceReceived dmr cfg connected data ts burstType urandom clock shared slot
    StreamLaw slot result.2.1 result.2.2 := by
  cases connected with
  | false => exact ⟨trivial, fun _ opened => .inl opened⟩
  | true =>
      simp only [ipscVoiceReceived_eq]
      obtain ⟨outCall, lockUntil, framed, streams⟩ := legacyPrelude_frame cfg data burstType clock slot
      have stream : outCall.streamId = none ∨ outCall.streamId = slot.outCall.streamId :=
        streams.imp_right And.left
      have gate := ipscGate_cases cfg data burstType clock slot
      rw [framed] at gate
      generalize ipscGate cfg data burstType clock slot = passed at gate
      rcases passed with ⟨dropped, after⟩
      have nothing : ∀ action ∈ ([] : List Action), action.FromHbp dmr := by simp
      cases gate with
      | stale | blocked | suppressed => exact .silent nothing stream
      | admitted lock reflect verdict heard =>
          have outcome := sendBurst_cases dmr cfg ts data burstType urandom (clock 5)
            (shared.learn data) { slot with
              outCall := outCall, lock := lock, reflect := reflect, ipscBusyLast := clock 4 }
          have kept : outCall.Wide := by
            intro streamId opened
            rcases stream with closed | same
            · rw [closed] at opened
              cases opened
            · exact wide streamId (same ▸ opened)
          exact (outcome.streams long kept).after_close stream

/-- A drain and a frame from the master keep the law. -/
theorem hbpFrameReceived_streams (dmr : DmrUtils) (cfg : Config) (frame : HbpFrame) (draw : RtpDraw)
    (clock : Clock) (shared : Shared) (slot : Slot) :
    let result := hbpFrameReceived dmr cfg frame draw clock shared slot
    StreamLaw slot result.2.1 result.2.2 := by
  obtain ⟨out, fromHbp⟩ := hbpFrameReceived_outbound dmr cfg frame draw clock shared slot
  exact .silent fromHbp (.inr (congrArg _ out))

theorem drainHbpToIpscQueue_streams (dmr : DmrUtils) (cfg : Config) (clock : Clock) (slot : Slot) :
    let result := drainHbpToIpscQueue cfg clock slot
    StreamLaw slot result.1 result.2 := by
  have outcome := drainHbpToIpscQueue_cases cfg clock slot
  exact .silent (outcome.fromHbp dmr) (.inr (congrArg _ outcome.side.outCall))

end Ipsc2Hbp
