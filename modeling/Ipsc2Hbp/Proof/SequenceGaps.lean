import Mathlib.Data.List.Chain
import Ipsc2Hbp.Construction.DmrCodec
import Ipsc2Hbp.Construction.GroupVoice
import Ipsc2Hbp.Construction.Packets
import Ipsc2Hbp.Library.ByteCounter
import Ipsc2Hbp.Proof.Dmrd

namespace Ipsc2Hbp
open BigEndian ByteCounter

/-- The sequence byte of a DMRD frame. -/
def dmrdSeq (dmrd : Bytes) : UInt8 := dmrd.getD dmrdSeqOff 0

/-- The DMRD frames of both timeslots in the order in which they are sent. -/
def allFrames (log : List Output) : List Bytes :=
  log.filterMap fun output => match output with
    | .slot _ (.sendDmrd dmrd) => some dmrd
    | _ => none

@[simp] theorem allFrames_append (first second : List Output) :
    allFrames (first ++ second) = allFrames first ++ allFrames second := List.filterMap_append

theorem allFrames_slot (ts : Timeslot) (actions : List Action) :
    allFrames (actions.map (Output.slot ts)) = sentDmrd actions := by
  rw [allFrames, sentDmrd, List.filterMap_map]
  congr 1
  funext action
  cases action <;> rfl

/-- The frames are numbered from the counter of a state, and the next state counts them all. -/
structure Counts (before after : UInt8) (frames : List Bytes) : Prop where
  numbered : ByteCounter.Numbered dmrdSeq before frames
  counted : after = advance before frames.length

theorem Counts.none (counter : UInt8) : Counts counter counter [] :=
  ⟨trivial, (advance_zero counter).symm⟩

/-- The send loop numbers the copies of a frame. -/
theorem sendFrames_counts (cfg : Config) (srcSub dstGroup : Bytes) (flags : UInt8)
    (streamId payload : Bytes) (count : Nat) (seq : UInt8) :
    Counts seq (advance seq count) (sentDmrd (sendFrames
      (fun seq => dmrdFrame cfg seq srcSub dstGroup flags streamId payload) count seq)) := by
  induction count generalizing seq with
  | zero => exact ⟨trivial, rfl⟩
  | succ count ih =>
      have rest := ih (seq + 1)
      refine ⟨⟨rfl, rest.numbered⟩, ?_⟩
      have counted := rest.counted
      rw [advance_succ, advance_succ] at counted
      exact counted

/-- The actions that a burst brings along send no frame. -/
def Burst.Silent : Burst → Prop
  | .done _ actions | .frame _ actions _ _ => sentDmrd actions = []

theorem openVoiceBurst_silent (dmr : DmrUtils) (data : Bytes) (slot : Slot) {actions : List Action}
    (silent : sentDmrd actions = []) : (openVoiceBurst dmr data slot actions).Silent := by
  unfold openVoiceBurst
  split
  case isTrue => exact silent
  case isFalse => exact silent

theorem voiceBurst_silent (dmr : DmrUtils) (cfg : Config) (data srcSub dstGroup : Bytes)
    (urandom : StreamId) (slot : Slot) :
    (voiceBurst dmr cfg data srcSub dstGroup urandom slot).Silent := by
  unfold voiceBurst
  cases slot.outCall.streamId with
  | some streamId => exact openVoiceBurst_silent dmr data slot rfl
  | none =>
      simp only
      split
      case isTrue => exact rfl
      case isFalse =>
        split
        case h_1 => exact rfl
        case h_2 =>
          split
          case isTrue => exact rfl
          case isFalse => exact openVoiceBurst_silent dmr data _ rfl

theorem burstOf_silent (dmr : DmrUtils) (cfg : Config) (data srcSub dstGroup : Bytes)
    (burstType : UInt8) (urandom : StreamId) (slot : Slot) :
    (burstOf dmr cfg data srcSub dstGroup burstType urandom slot).Silent := by
  unfold burstOf
  split
  case isTrue =>
    unfold headBurst
    cases slot.outCall.streamId with
    | none => exact rfl
    | some streamId => cases cfg.legacyFlow <;> exact rfl
  case isFalse =>
    split
    case isTrue =>
      unfold termBurst
      cases slot.outCall.streamId <;> exact rfl
    case isFalse => exact voiceBurst_silent ..

/-- The tail of `ipsc_voice_received` advances the counter by the frames that it sends. -/
theorem sendBurst_counts (cfg : Config) (ts : Timeslot) (srcSub dstGroup : Bytes) (burstType : UInt8)
    (now : Time) (shared : Shared) {burst : Burst} (silent : burst.Silent) :
    let sent := sendBurst cfg ts srcSub dstGroup burstType now shared burst
    Counts shared.outSeq sent.1.outSeq (sentDmrd sent.2.2) := by
  cases burst with
  | done slot actions =>
      have none : sentDmrd actions = [] := silent
      simp only [sendBurst, none]
      exact .none _
  | frame slot actions payload flags =>
      have none : sentDmrd actions = [] := silent
      cases opened : slot.outCall.streamId with
      | none =>
          simp only [sendBurst, opened, sentDmrd_append, none]
          exact .none _
      | some streamId =>
          simp only [sendBurst, opened, sentDmrd_append, none, List.nil_append]
          exact sendFrames_counts ..

theorem ipscVoiceReceived_counts (dmr : DmrUtils) (cfg : Config) (connected : Bool) (data : Bytes)
    (ts : Timeslot) (burstType : UInt8) (urandom : StreamId) (clock : Clock) (shared : Shared)
    (slot : Slot) :
    let result := ipscVoiceReceived dmr cfg connected data ts burstType urandom clock shared slot
    Counts shared.outSeq result.1.outSeq (sentDmrd result.2.2) := by
  cases connected with
  | false => exact .none _
  | true =>
      have learned : (shared.learn data).outSeq = shared.outSeq := by
        unfold Shared.learn
        split <;> rfl
      rw [ipscVoiceReceived_eq]
      split
      case isTrue => exact .none _
      case isFalse =>
        have sent := sendBurst_counts cfg ts (gvSrcSub data) (gvDstGroup data) burstType (clock 5)
          (shared.learn data) (burstOf_silent dmr cfg data (gvSrcSub data) (gvDstGroup data) burstType
            urandom (ipscGate cfg data burstType clock slot).2)
        rwa [learned] at sent

/-- Every callback advances the counter by the frames that it sends. -/
theorem Translator.step_counts (dmr : DmrUtils) (cfg : Config) (tr : Translator) (event : Event) :
    Counts tr.shared.outSeq (Translator.step dmr cfg tr event).1.shared.outSeq
      (allFrames (Translator.step dmr cfg tr event).2) := by
  cases event with
  | ipscVoice connected data ts burstType urandom clock =>
      simp only [step, onSlot, allFrames_slot]
      exact ipscVoiceReceived_counts ..
  | hbpVoice registered dmrd draw clock =>
      simp only [step, hbpVoiceReceived_eq]
      cases acceptedFrame registered dmrd with
      | none => exact .none _
      | some frame =>
          obtain ⟨counter, counted⟩ := hbpFrameReceived_shared dmr cfg frame draw clock tr.shared
            (tr.slot frame.timeslot)
          have silent := sentDmrd_fromHbp (hbpFrameReceived_outbound dmr cfg frame draw clock tr.shared
            (tr.slot frame.timeslot)).2
          simp only [onSlot, allFrames_slot, counted, silent]
          exact .none _
  | drain ts clock =>
      have silent := sentDmrd_fromHbp ((drainHbpToIpscQueue_cases cfg clock (tr.slot ts)).fromHbp dmr)
      simp only [step, onSlot, allFrames_slot, silent]
      exact .none _
  | checkCallTimeouts | hbpDisconnected => exact .none _
  | peerRegistered | peerLost =>
      simp only [step]
      split <;> exact .none _

/-- In every run the frames are numbered by one counter. -/
theorem run_counts (dmr : DmrUtils) (cfg : Config) (tr : Translator) (events : List Event) :
    Counts tr.shared.outSeq ((translator dmr cfg).run tr events).1.shared.outSeq
      (allFrames ((translator dmr cfg).run tr events).2) := by
  induction events generalizing tr with
  | nil => exact .none _
  | cons event rest ih =>
      have first := Translator.step_counts dmr cfg tr event
      have later := ih (Translator.step dmr cfg tr event).1
      rw [Mealy.run_cons, allFrames_append]
      change Counts _ _ (allFrames (Translator.step dmr cfg tr event).2 ++ _)
      refine ⟨(numbered_append ..).mpr ⟨first.numbered, ?_⟩, ?_⟩
      · rw [← first.counted]
        exact later.numbered
      · rw [List.length_append, ← advance_add, ← first.counted]
        exact later.counted

/-- The number of frames that a packet which passes the tests is sent in. -/
def burstFrames (cfg : Config) (data : Bytes) (burstType : UInt8) (slot : Slot) : Nat :=
  let opened := slot.outCall.streamId.isSome
  if burstType = voiceHead then if cfg.legacyFlow then if opened then 0 else 2 else 1
  else if burstType = voiceTerm then if opened then 1 else 0
  else if data.length < 52 then 0
  else if opened || (!cfg.legacyFlow && data[32]? = some 0x16) then 1 else 0

/-- The number of frames that a callback forwards. -/
def forwardedFrames (cfg : Config) (tr : Translator) : Event → Nat
  | .ipscVoice connected data ts burstType _ clock =>
      let gate := ipscGate cfg data burstType clock (tr.slot ts)
      if connected && !gate.1 then burstFrames cfg data burstType gate.2 else 0
  | _ => 0

/-- The number of frames that the callbacks of a run forward. -/
def framesForwarded (dmr : DmrUtils) (cfg : Config) (tr : Translator) (events : List Event) : Nat :=
  ((translator dmr cfg).shown (fun tr event => some (forwardedFrames cfg tr event)) tr events).sum

theorem sentDmrd_sendFrames_length (frame : UInt8 → Bytes) (count : Nat) (seq : UInt8) :
    (sentDmrd (sendFrames frame count seq)).length = count := by
  induction count generalizing seq with
  | zero => rfl
  | succ count ih => exact congrArg Nat.succ (ih (seq + 1))

/-- The number of frames that a burst is sent in. -/
def Burst.frames (cfg : Config) (burstType : UInt8) : Burst → Nat
  | .done .. => 0
  | .frame slot .. =>
      if slot.outCall.streamId.isSome then if cfg.legacyFlow && burstType = voiceHead then 2 else 1
      else 0

theorem sendBurst_length (cfg : Config) (ts : Timeslot) (srcSub dstGroup : Bytes) (burstType : UInt8)
    (now : Time) (shared : Shared) {burst : Burst} (silent : burst.Silent) :
    (sentDmrd (sendBurst cfg ts srcSub dstGroup burstType now shared burst).2.2).length =
      burst.frames cfg burstType := by
  cases burst with
  | done slot actions => exact congrArg List.length silent
  | frame slot actions payload flags =>
      have none : sentDmrd actions = [] := silent
      unfold Burst.frames
      cases opened : slot.outCall.streamId with
      | none =>
          simp only [sendBurst, opened, sentDmrd_append, none]
          rfl
      | some streamId =>
          rw [sendBurst_frame opened, sentDmrd_append, none, List.nil_append,
            sentDmrd_sendFrames_length]
          simp [opened]

theorem openVoiceBurst_frames (dmr : DmrUtils) (cfg : Config) (data : Bytes) {burstType : UInt8}
    (notHead : burstType ≠ voiceHead) {slot : Slot} {streamId : Bytes}
    (opened : slot.outCall.streamId = some streamId) (actions : List Action) :
    (openVoiceBurst dmr data slot actions).frames cfg burstType =
      if data.length < 52 then 0 else 1 := by
  unfold openVoiceBurst
  split
  case isTrue => rfl
  case isFalse => simp [Burst.frames, opened, notHead]

/-- A burst is sent in as many frames as its packet and the open stream say. -/
theorem burstOf_frames (dmr : DmrUtils) (cfg : Config) (data srcSub dstGroup : Bytes)
    (burstType : UInt8) (urandom : StreamId) (slot : Slot) :
    (burstOf dmr cfg data srcSub dstGroup burstType urandom slot).frames cfg burstType =
      burstFrames cfg data burstType slot := by
  unfold burstOf burstFrames
  by_cases head : burstType = voiceHead
  · rw [if_pos head, if_pos head]
    unfold headBurst
    cases opened : slot.outCall.streamId with
    | none => simp [Burst.frames, head]
    | some streamId => cases flow : cfg.legacyFlow <;> simp [Burst.frames, flow]
  · rw [if_neg head, if_neg head]
    by_cases term : burstType = voiceTerm
    · rw [if_pos term, if_pos term]
      unfold termBurst
      cases opened : slot.outCall.streamId <;> simp [Burst.frames, opened, head]
    · rw [if_neg term, if_neg term]
      unfold voiceBurst
      cases opened : slot.outCall.streamId with
      | some streamId => simp [openVoiceBurst_frames dmr cfg data head opened]
      | none =>
          cases flow : cfg.legacyFlow with
          | true => simp [Burst.frames]
          | false =>
              cases mark : data[32]? with
              | none => simp [Burst.frames]
              | some byte =>
                  by_cases burstE : byte = 0x16
                  · subst burstE
                    simp only [Bool.false_eq_true, if_false, ne_eq, not_true_eq_false]
                    rw [openVoiceBurst_frames dmr cfg data head rfl]
                    simp
                  · simp [Burst.frames, burstE]

/-- A callback sends the frames that it forwards. -/
theorem step_length (dmr : DmrUtils) (cfg : Config) (tr : Translator) (event : Event) :
    (allFrames (Translator.step dmr cfg tr event).2).length = forwardedFrames cfg tr event := by
  cases event with
  | ipscVoice connected data ts burstType urandom clock =>
      simp only [Translator.step, Translator.onSlot, allFrames_slot, forwardedFrames]
      cases connected with
      | false => rfl
      | true =>
          rw [ipscVoiceReceived_eq]
          cases (ipscGate cfg data burstType clock (tr.slot ts)).1 with
          | true => rfl
          | false =>
              simp only [Bool.false_eq_true, if_false, Bool.not_false, Bool.and_self, if_true]
              rw [sendBurst_length cfg ts _ _ burstType (clock 5) _ (burstOf_silent ..), burstOf_frames]
  | hbpVoice registered dmrd draw clock =>
      simp only [Translator.step, hbpVoiceReceived_eq]
      cases acceptedFrame registered dmrd with
      | none => rfl
      | some frame =>
          have silent := sentDmrd_fromHbp (hbpFrameReceived_outbound dmr cfg frame draw clock tr.shared
            (tr.slot frame.timeslot)).2
          simp only [Translator.onSlot, allFrames_slot, silent]
          rfl
  | drain ts clock =>
      have silent := sentDmrd_fromHbp ((drainHbpToIpscQueue_cases cfg clock (tr.slot ts)).fromHbp dmr)
      simp only [Translator.step, Translator.onSlot, allFrames_slot, silent]
      rfl
  | checkCallTimeouts | hbpDisconnected => rfl
  | peerRegistered | peerLost =>
      simp only [Translator.step]
      split <;> rfl

theorem run_length (dmr : DmrUtils) (cfg : Config) (tr : Translator) (events : List Event) :
    (allFrames ((translator dmr cfg).run tr events).2).length = framesForwarded dmr cfg tr events := by
  induction events generalizing tr with
  | nil => rfl
  | cons event rest ih =>
      rw [Mealy.run_cons, allFrames_append, List.length_append, ih]
      change (allFrames (Translator.step dmr cfg tr event).2).length + _ = _
      rw [step_length]
      rfl

/-- The gap that the wire decoder's `decode_packet` finds between two frames of a stream. -/
def seqGap (seq prevSeq : UInt8) : UInt8 := seq - prevSeq - 1

/-- The sequence bytes differ by one, so that a decoder finds no gap. -/
def FollowsUp (first second : Bytes) : Prop :=
  dmrdSeq second = dmrdSeq first + 1 ∧ seqGap (dmrdSeq second) (dmrdSeq first) = 0

theorem followsUp_iff (first second : Bytes) :
    FollowsUp first second ↔ dmrdSeq second = dmrdSeq first + 1 := by
  unfold FollowsUp seqGap
  grind

/-- The stream ID of a DMRD frame. -/
def dmrdStream (dmrd : Bytes) : Bytes := (HbpFrame.read dmrd).stream

/-- A frame of one callback and the next frame of its stream, of a later callback. -/
structure ConsecutiveFrames (dmr : DmrUtils) (cfg : Config) (earlier : List Event) (one : Event)
    (middle : List Event) (two : Event) (first second : Bytes) : Prop where
  last : (allFrames (Translator.step dmr cfg
    ((translator dmr cfg).run Translator.initial earlier).1 one).2).getLast? = some first
  next : (allFrames (Translator.step dmr cfg
    ((translator dmr cfg).run Translator.initial (earlier ++ one :: middle)).1 two).2).head? =
      some second
  same : dmrdStream second = dmrdStream first
  others : ∀ frame ∈ allFrames ((translator dmr cfg).run
    ((translator dmr cfg).run Translator.initial (earlier ++ [one])).1 middle).2,
      dmrdStream frame ≠ dmrdStream first

/-- The copies of a frame have its stream ID. -/
theorem sendFrames_stream (cfg : Config) (srcSub dstGroup : Bytes) (flags : UInt8)
    (streamId payload : Bytes) (count : Nat) (seq : UInt8) :
    ∀ dmrd ∈ sentDmrd (sendFrames
      (fun seq => dmrdFrame cfg seq srcSub dstGroup flags streamId payload) count seq),
      dmrdStream dmrd = dmrdStream (dmrdFrame cfg 0 srcSub dstGroup flags streamId payload) := by
  induction count generalizing seq with
  | zero => simp [sendFrames, sentDmrd]
  | succ count ih =>
      intro dmrd member
      rcases List.mem_cons.mp member with rfl | later
      · rfl
      · exact ih (seq + 1) dmrd later

/-- The frames of a burst have one stream ID. -/
theorem sendBurst_stream (cfg : Config) (ts : Timeslot) (srcSub dstGroup : Bytes) (burstType : UInt8)
    (now : Time) (shared : Shared) {burst : Burst} (silent : burst.Silent) :
    ∃ stream, ∀ dmrd ∈ sentDmrd (sendBurst cfg ts srcSub dstGroup burstType now shared burst).2.2,
      dmrdStream dmrd = stream := by
  cases burst with
  | done slot actions =>
      have none : sentDmrd actions = [] := silent
      exact ⟨[], by simp [sendBurst, none]⟩
  | frame slot actions payload flags =>
      have none : sentDmrd actions = [] := silent
      cases opened : slot.outCall.streamId with
      | none =>
          simp only [sendBurst, opened, sentDmrd_append, none]
          exact ⟨[], by simp [sentDmrd]⟩
      | some streamId =>
          rw [sendBurst_frame opened, sentDmrd_append, none, List.nil_append]
          exact ⟨_, fun dmrd => sendFrames_stream cfg srcSub dstGroup _ streamId payload _ _ dmrd⟩

/-- The frames of a callback have one stream ID. -/
theorem step_stream (dmr : DmrUtils) (cfg : Config) (tr : Translator) (event : Event) :
    ∃ stream, ∀ dmrd ∈ allFrames (Translator.step dmr cfg tr event).2, dmrdStream dmrd = stream := by
  have quiet (none : forwardedFrames cfg tr event = 0) :
      ∃ stream, ∀ dmrd ∈ allFrames (Translator.step dmr cfg tr event).2, dmrdStream dmrd = stream := by
    rw [← step_length dmr, List.length_eq_zero_iff] at none
    exact ⟨[], by simp [none]⟩
  cases event with
  | ipscVoice connected data ts burstType urandom clock =>
      cases connected with
      | false => exact quiet rfl
      | true =>
          simp only [Translator.step, Translator.onSlot, allFrames_slot]
          rw [ipscVoiceReceived_eq]
          cases (ipscGate cfg data burstType clock (tr.slot ts)).1 with
          | true => exact ⟨[], by simp [sentDmrd]⟩
          | false => exact sendBurst_stream cfg ts _ _ burstType (clock 5) _ (burstOf_silent ..)
  | hbpVoice | drain | checkCallTimeouts | peerRegistered | peerLost | hbpDisconnected =>
      exact quiet rfl

/-- The frames of one callback are copies of one frame, each numbered after the one before. -/
theorem step_isChain (dmr : DmrUtils) (cfg : Config) (tr : Translator) (event : Event) :
    (allFrames (Translator.step dmr cfg tr event).2).IsChain fun first second =>
      dmrdStream second = dmrdStream first ∧ FollowsUp first second := by
  obtain ⟨stream, same⟩ := step_stream dmr cfg tr event
  have chain := (Translator.step_counts dmr cfg tr event).numbered.isChain
  refine chain.imp_of_mem_imp fun first second one two next => ⟨?_, (followsUp_iff ..).mpr next⟩
  rw [same first one, same second two]

/-- The sequence byte of a frame and that of the stream's next frame are as far apart as the frames
that were forwarded in between. -/
theorem ConsecutiveFrames.apart {dmr : DmrUtils} {cfg : Config} {earlier middle : List Event}
    {one two : Event} {first second : Bytes}
    (consecutive : ConsecutiveFrames dmr cfg earlier one middle two first second) :
    dmrdSeq second = advance (dmrdSeq first) (framesForwarded dmr cfg
      ((translator dmr cfg).run Translator.initial (earlier ++ [one])).1 middle + 1) := by
  obtain ⟨copies, sentOne⟩ := List.getLast?_eq_some_iff.mp consecutive.last
  obtain ⟨rest, sentTwo⟩ := List.head?_eq_some_iff.mp consecutive.next
  let before := ((translator dmr cfg).run Translator.initial earlier).1
  let opened := (Translator.step dmr cfg before one).1
  have start : ((translator dmr cfg).run Translator.initial (earlier ++ [one])).1 = opened := by
    rw [Mealy.run_append]
    rfl
  have reached : ((translator dmr cfg).run Translator.initial (earlier ++ one :: middle)).1 =
      ((translator dmr cfg).run opened middle).1 := by
    rw [Mealy.run_append]
    rfl
  have numbered := (run_counts dmr cfg before (one :: (middle ++ [two]))).numbered
  have frames : allFrames ((translator dmr cfg).run before (one :: (middle ++ [two]))).2 =
      copies ++ first :: (allFrames ((translator dmr cfg).run opened middle).2 ++ second :: rest) := by
    rw [reached] at sentTwo
    rw [Mealy.run_cons, Mealy.run_append, allFrames_append, allFrames_append, Mealy.run_cons,
      Mealy.run_nil, List.append_nil]
    change allFrames (Translator.step dmr cfg before one).2 ++ (_ ++ allFrames
      (Translator.step dmr cfg ((translator dmr cfg).run opened middle).1 two).2) = _
    rw [sentOne, sentTwo, List.append_assoc]
    rfl
  rw [frames] at numbered
  rw [start, ← run_length]
  exact numbered.apart

/-- In every run the frames of one callback follow up on each other, and a frame follows up on the
last one of its stream exactly when a multiple of 256 frames of other streams was forwarded in
between. -/
theorem dmrd_sequence_iff (dmr : DmrUtils) (cfg : Config) :
    (∀ tr event, (allFrames (Translator.step dmr cfg tr event).2).IsChain fun first second =>
      dmrdStream second = dmrdStream first ∧ FollowsUp first second) ∧
    (∀ earlier one middle two first second,
      ConsecutiveFrames dmr cfg earlier one middle two first second →
      (FollowsUp first second ↔ framesForwarded dmr cfg
        ((translator dmr cfg).run Translator.initial (earlier ++ [one])).1 middle % 256 = 0)) := by
  refine ⟨step_isChain dmr cfg, fun earlier one middle two first second consecutive => ?_⟩
  have next : dmrdSeq first + 1 = advance (dmrdSeq first) 1 := rfl
  rw [followsUp_iff, consecutive.apart, next, advance_eq_iff]
  omega

/-- The header of a repeater's call on timeslot 1. -/
def firstSlotHead : Event :=
  .ipscVoice true (peerHead dmrCodec 5 [0, 0, 9] [0, 0, 1]) .ts1 voiceHead firstDraw fun _ => 100

/-- The first voice packet of that call. -/
def firstSlotVoice : Event :=
  .ipscVoice true (peerVoice 5 [0, 0, 9] [0, 0, 1] (List.replicate 19 0)) .ts1 slot1Voice firstDraw
    fun _ => 102

/-- The VOICE_HEAD packet of another call on timeslot 2. -/
def secondSlotPacket : Bytes :=
  buildGv {} {} [0, 0, 8] [0, 0, 2] tsCallMsk (rtpHeader 0xdd 0 0)
    ([voiceHead] ++ buildIpscVoicePayload dmrCodec (dmrCodec.lcOpt ++ [0, 0, 2] ++ [0, 0, 8]) voiceHead) 6

def secondSlotHead : Event :=
  .ipscVoice true secondSlotPacket .ts2 voiceHead secondDraw fun _ => 101

/-- The two frames of a call that has the counter for itself. -/
theorem dmrd_sequence_iff_alone :
    ∃ first second, ConsecutiveFrames dmrCodec {} [] firstSlotHead [] firstSlotVoice first second ∧
      FollowsUp first second := by
  let head := allFrames (Translator.step dmrCodec {} Translator.initial firstSlotHead).2
  let voice := allFrames (Translator.step dmrCodec {}
    ((translator dmrCodec {}).run Translator.initial [firstSlotHead]).1 firstSlotVoice).2
  have consecutive : ConsecutiveFrames dmrCodec {} [] firstSlotHead [] firstSlotVoice (head.getD 0 [])
      (voice.getD 0 []) :=
    ⟨by decide +kernel, by decide +kernel, by decide +kernel, by decide +kernel⟩
  exact ⟨_, _, consecutive, ((dmrd_sequence_iff dmrCodec {}).2 _ _ _ _ _ _ consecutive).mpr
    (by decide +kernel)⟩

/-- A header on the other timeslot comes between the two frames, and the decoder finds a gap. -/
theorem dmrd_sequence_gap :
    parseGroupVoiceMeta secondSlotPacket = .ok (.ts2, voiceHead) ∧
    ∃ first second,
      ConsecutiveFrames dmrCodec {} [] firstSlotHead [secondSlotHead] firstSlotVoice first second ∧
      dmrdSeq first = 0 ∧ dmrdSeq second = 2 ∧ seqGap (dmrdSeq second) (dmrdSeq first) = 1 ∧
      ¬ FollowsUp first second := by
  refine ⟨by rfl, ?_⟩
  let head := allFrames (Translator.step dmrCodec {} Translator.initial firstSlotHead).2
  let voice := allFrames (Translator.step dmrCodec {} ((translator dmrCodec {}).run
    Translator.initial [firstSlotHead, secondSlotHead]).1 firstSlotVoice).2
  have consecutive : ConsecutiveFrames dmrCodec {} [] firstSlotHead [secondSlotHead] firstSlotVoice
      (head.getD 0 []) (voice.getD 0 []) :=
    ⟨by decide +kernel, by decide +kernel, by decide +kernel, by decide +kernel⟩
  refine ⟨_, _, consecutive, by decide +kernel, by decide +kernel, by decide +kernel, fun follows => ?_⟩
  have next := follows.1
  revert next
  decide +kernel

end Ipsc2Hbp
