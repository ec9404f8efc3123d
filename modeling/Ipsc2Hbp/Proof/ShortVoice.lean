import Ipsc2Hbp.Construction.DmrCodec
import Ipsc2Hbp.Construction.GroupVoice
import Ipsc2Hbp.Construction.Packets
import Ipsc2Hbp.Proof.SlotStep

namespace Ipsc2Hbp
open BigEndian

/-- An action that hands over a frame or a packet. -/
def Action.IsPacket : Action → Prop
  | .sendDmrd _ | .sendToPeer _ => True
  | .openStream .. | .generate _ | .queueFull _ | .slotBusy _ | .raised _ => False

/-- The fields of an outbound call that translate its packets are as they were. -/
structure OutCall.Untouched (after before : OutCall) : Prop where
  streamId : after.streamId = before.streamId
  lc : after.lc = before.lc
  embLc : after.embLc = before.embLc
  framePos : after.framePos = before.framePos

/-- A packet marked as a burst E passes the three tests while no stream is open. -/
structure EntersLate (cfg : Config) (connected : Bool) (data : Bytes) (burstType : UInt8)
    (clock : Clock) (slot : Slot) : Prop where
  connected : connected = true
  late : LateEntry cfg data burstType slot
  passed : (ipscGate cfg data burstType clock slot).1 = false

/-- The tests of a voice packet keep its timeslot's stream. -/
theorem ipscGate_untouched (cfg : Config) (data : Bytes) {burstType : UInt8} (clock : Clock)
    (slot : Slot) (voice : IsVoice burstType) :
    (ipscGate cfg data burstType clock slot).2.outCall.Untouched slot.outCall := by
  have prelude : (legacyPrelude cfg data burstType clock slot).2.outCall.Untouched
      slot.outCall := by
    have ways := legacyPrelude_cases cfg data burstType clock slot
    generalize legacyPrelude cfg data burstType clock slot = prelude at ways
    rcases prelude with ⟨dropped, after⟩
    cases ways with
    | kept | stale => exact ⟨rfl, rfl, rfl, rfl⟩
    | recorded _ _ _ head | restarted _ _ _ head => exact absurd head voice.1
  have gate := ipscGate_cases cfg data burstType clock slot
  generalize ipscGate cfg data burstType clock slot = passed at gate
  rcases passed with ⟨dropped, after⟩
  cases gate with
  | stale | blocked | suppressed | admitted => exact prelude

/-- A burst E that is too short for its voice bytes opens the stream and sends nothing. -/
theorem sendBurst_lateShort (dmr : DmrUtils) {cfg : Config} (ts : Timeslot) {data : Bytes}
    {burstType : UInt8} (urandom : StreamId) (now : Time) (shared : Shared) {slot : Slot}
    (late : LateEntry cfg data burstType slot) (short : data.length < 52) :
    (sendBurst cfg ts (gvSrcSub data) (gvDstGroup data) burstType now shared
      (burstOf dmr cfg data (gvSrcSub data) (gvDstGroup data) burstType urandom slot)).2 =
      ({ slot with outCall := slot.outCall.enterLate dmr data urandom.val },
        [.openStream urandom.val (gvLc dmr data)]) := by
  unfold burstOf
  rw [if_neg late.voice.1, if_neg late.voice.2]
  unfold voiceBurst
  rw [late.closed]
  dsimp only
  rw [late.flow, late.mark]
  simp only [Bool.false_eq_true, if_false, ne_eq, not_true_eq_false]
  rw [openVoiceBurst, if_pos short]
  rfl

/-- A voice packet that is too short sends nothing, and it keeps its timeslot's stream exactly when it
does not enter late. -/
theorem ipscVoiceReceived_short (dmr : DmrUtils) (cfg : Config) (connected : Bool) {data : Bytes}
    (ts : Timeslot) {burstType : UInt8} (urandom : StreamId) (clock : Clock) (shared : Shared)
    (slot : Slot) (short : data.length < 52) (voice : IsVoice burstType) :
    let result := ipscVoiceReceived dmr cfg connected data ts burstType urandom clock shared slot
    (∀ action ∈ result.2.2, ¬ action.IsPacket) ∧
      (result.2.1.outCall.Untouched slot.outCall ↔
        ¬ EntersLate cfg connected data burstType clock slot) := by
  cases connection : connected with
  | false =>
      refine ⟨by simp [ipscVoiceReceived], iff_of_true ⟨rfl, rfl, rfl, rfl⟩ ?_⟩
      exact fun late => Bool.false_ne_true late.connected
  | true =>
      rw [ipscVoiceReceived_eq]
      have tested := ipscGate_untouched cfg data clock slot voice
      cases dropped : (ipscGate cfg data burstType clock slot).1 with
      | true =>
          simp only [if_true]
          refine ⟨by simp, iff_of_true tested fun late => ?_⟩
          exact Bool.noConfusion (dropped.symm.trans late.passed)
      | false =>
          simp only [Bool.false_eq_true, if_false]
          generalize gate : (ipscGate cfg data burstType clock slot).2 = admitted at tested
          by_cases late : LateEntry cfg data burstType slot
          · have same : LateEntry cfg data burstType admitted :=
              ⟨late.voice, tested.streamId.trans late.closed, late.flow, late.mark⟩
            rw [sendBurst_lateShort dmr ts urandom (clock 5) (shared.learn data) same short]
            refine ⟨by simp [Action.IsPacket], iff_of_false (fun kept => ?_) ?_⟩
            · have opened : some urandom.val = slot.outCall.streamId := kept.streamId
              rw [late.closed] at opened
              cases opened
            · exact fun stays => stays ⟨rfl, late, dropped⟩
          · have outcome := sendBurst_cases dmr cfg ts data burstType urandom (clock 5)
              (shared.learn data) admitted
            generalize (sendBurst cfg ts (gvSrcSub data) (gvDstGroup data) burstType (clock 5)
              (shared.learn data) (burstOf dmr cfg data (gvSrcSub data) (gvDstGroup data) burstType
                urandom admitted)).2 = after at outcome
            rcases after with ⟨after, actions⟩
            have stays : ¬ EntersLate cfg true data burstType clock slot :=
              fun entered => late entered.late
            have kept : ¬ LateEntry cfg data burstType admitted := fun entered =>
              late ⟨entered.voice, tested.streamId.symm.trans entered.closed, entered.flow,
                entered.mark⟩
            cases outcome with
            | ignored => exact ⟨by simp, iff_of_true tested stays⟩
            | outOfRange => exact ⟨by simp [Action.IsPacket], iff_of_true tested stays⟩
            | headOpened head | headRepeated _ head => exact absurd head voice.1
            | ended _ term => exact absurd term voice.2
            | voiceSent _ _ _ long => exact absurd short (Nat.not_lt_of_le long)
            | enteredLate entered | enteredSilent entered => exact absurd entered kept

/-- In every reachable state a voice packet of fewer than 52 bytes sends nothing and opens no call
exactly when it is not a burst E that enters late. -/
theorem short_voice_iff (dmr : DmrUtils) (cfg : Config) (events : List Event) (connected : Bool)
    {data : Bytes} (ts : Timeslot) {burstType : UInt8} (urandom : StreamId) (clock : Clock)
    (short : 31 ≤ data.length ∧ data.length ≤ 51) (voice : IsVoice burstType) :
    let before := ((translator dmr cfg).run Translator.initial events).1
    let result := Translator.step dmr cfg before
      (.ipscVoice connected data ts burstType urandom clock)
    ((∀ other action, .slot other action ∈ result.2 → ¬ action.IsPacket) ∧
      (result.1.slot ts).outCall.Untouched (before.slot ts).outCall) ↔
      ¬ EntersLate cfg connected data burstType clock (before.slot ts) := by
  intro before result
  have tooShort : data.length < 52 := Nat.lt_succ_of_le short.2
  obtain ⟨silent, kept⟩ := ipscVoiceReceived_short dmr cfg connected ts urandom clock before.shared
    (before.slot ts) tooShort voice
  have state : result.1.slot ts = (ipscVoiceReceived dmr cfg connected data ts burstType urandom clock
      before.shared (before.slot ts)).2.1 :=
    Function.update_self ..
  rw [state, ← kept]
  refine and_iff_right fun other action member => ?_
  obtain ⟨done, inside, same⟩ := List.mem_map.mp member
  cases same
  exact silent action inside

/-- The header of a repeater's call. -/
def openedCall : List Event :=
  [.ipscVoice true (peerHead dmrCodec 5 [0, 0, 9] [0, 0, 1]) .ts1 voiceHead firstDraw fun _ => 100]

/-- Then a voice packet without its last byte leaves the call as it is. -/
theorem short_voice_iff_open :
    let before := ((translator dmrCodec {}).run Translator.initial openedCall).1
    let result := Translator.step dmrCodec {} before (.ipscVoice true
      (peerVoice 5 [0, 0, 9] [0, 0, 1] (List.replicate 18 0)) .ts1 slot1Voice firstDraw
        fun _ => 101)
    (∀ other action, .slot other action ∈ result.2 → ¬ action.IsPacket) ∧
      (result.1.slot .ts1).outCall.Untouched (before.slot .ts1).outCall := by
  have short : 31 ≤ (peerVoice 5 [0, 0, 9] [0, 0, 1] (List.replicate 18 0)).length ∧
      (peerVoice 5 [0, 0, 9] [0, 0, 1] (List.replicate 18 0)).length ≤ 51 := by decide
  have voice : IsVoice slot1Voice := by
    rw [IsVoice]
    decide
  refine (short_voice_iff dmrCodec {} openedCall true .ts1 firstDraw (fun _ => 101) short voice).mpr
    fun entered => ?_
  have closed := entered.late.closed
  revert closed
  decide +kernel

/-- A burst E of 33 bytes opens a call at a fresh translator. -/
theorem short_voice_opens_call :
    let before := ((translator dmrCodec {}).run Translator.initial []).1
    let data := peerBurstECut 5 [0, 0, 9] [0, 0, 1]
    let after := (Translator.step dmrCodec {} before
      (.ipscVoice true data .ts1 slot1Voice firstDraw fun _ => 100)).1
    31 ≤ data.length ∧ data.length ≤ 51 ∧ parseGroupVoiceMeta data = .ok (.ts1, slot1Voice) ∧
      (before.slot .ts1).outCall.streamId = none ∧
      (after.slot .ts1).outCall.streamId = some firstDraw.val ∧
      (after.slot .ts1).outCall.framePos = 4 ∧
      ¬ (after.slot .ts1).outCall.Untouched (before.slot .ts1).outCall := by
  intro before data after
  have opened : (after.slot .ts1).outCall.streamId = some firstDraw.val := by decide +kernel
  refine ⟨by decide, by decide, by rfl, rfl, opened, by decide +kernel, fun same => ?_⟩
  have kept := same.streamId
  rw [opened] at kept
  cases kept

end Ipsc2Hbp
