import Ipsc2Hbp.Proof.LockTest

namespace Ipsc2Hbp
open BigEndian

/-- The peer mode drops the master's echoes, and no call lock decides before that. -/
structure SuppressesEchoes (cfg : Config) : Prop where
  mode : cfg.ipscMode = .peer
  enabled : cfg.ipscReflectSuppression = true
  window : 1 ≤ cfg.ipscReflectWindow
  unlocked : cfg.ipscCallLock = false

/-- The tables recall a packet of the source and talkgroup after the time. -/
def Recalls (srcSub dstGroup : Bytes) (now : Time) (slot : Slot) : Prop :=
  ∃ entry ∈ slot.reflect.recent, entry.1 = srcSub ∧ entry.2.1 = dstGroup ∧ now < entry.2.2

/-- The tables ignore the stream after the time. -/
def IgnoresStream (streamByte : UInt8) (now : Time) (slot : Slot) : Prop :=
  ∃ expiry ∈ slot.reflect.ignore streamByte, now < expiry

/-- An action that opens a stream or sends a frame towards HBP. -/
def Action.ReachesHbp : Action → Prop
  | .openStream .. | .sendDmrd _ => True
  | .generate _ | .queueFull _ | .slotBusy _ | .sendToPeer _ | .raised _ => False

/-- What the reflection test answers and what it leaves in the tables. -/
structure EchoTested (cfg : Config) (streamByte burstType : UInt8) (srcSub dstGroup : Bytes)
    (now : Time) (slot : Slot) (answer : Bool × Slot) : Prop where
  verdict : answer.1 = true ↔ IgnoresStream streamByte now slot ∨
    (burstType = voiceHead ∧ slot.inCall.started = true ∧ Recalls srcSub dstGroup now slot)
  recent : answer.2.reflect.recent = slot.reflect.recent.filter fun entry => now < entry.2.2
  own : answer.1 = true → answer.2.reflect.ignore streamByte =
    if burstType = voiceTerm then none else some (now + cfg.ipscReflectWindow)
  others : ∀ other ≠ streamByte, answer.2.reflect.ignore other =
    (slot.reflect.ignore other).filter fun expiry => now < expiry

theorem isSome_filter_iff (ignored : Option Time) (now : Time) :
    (ignored.filter fun expiry => now < expiry).isSome = true ↔ ∃ expiry ∈ ignored, now < expiry := by
  cases ignored <;> simp [Option.filter]

theorem shouldSuppressIpscReflection_tested {cfg : Config} (suppresses : SuppressesEchoes cfg)
    (streamByte burstType : UInt8) (srcSub dstGroup : Bytes) (now : Time) (slot : Slot) :
    EchoTested cfg streamByte burstType srcSub dstGroup now slot
      (shouldSuppressIpscReflection cfg (some streamByte) burstType srcSub dstGroup now slot) := by
  have window : max 1 cfg.ipscReflectWindow = cfg.ipscReflectWindow := max_eq_right suppresses.window
  have ignored := isSome_filter_iff (slot.reflect.ignore streamByte) now
  have recalled : ((slot.reflect.recent.filter fun entry => now < entry.2.2).any fun entry =>
      entry.1 = srcSub && entry.2.1 = dstGroup) = true ↔ Recalls srcSub dstGroup now slot := by
    simp only [List.any_eq_true, List.mem_filter, decide_eq_true_eq, Bool.and_eq_true, Recalls]
    exact exists_congr fun entry => by tauto
  unfold shouldSuppressIpscReflection
  rw [suppresses.enabled, suppresses.mode, window]
  simp only [Bool.not_true, ne_eq, not_true_eq_false, decide_false, Bool.or_self, Bool.false_eq_true,
    if_false]
  by_cases known : ((slot.reflect.ignore streamByte).filter fun expiry => now < expiry).isSome = true
  · rw [if_pos known]
    refine ⟨iff_of_true rfl (.inl (ignored.mp known)), rfl, fun _ => ?_, fun other apart => ?_⟩
    · simp only [Function.update_self]
    · simp only [Function.update_of_ne apart]
  · rw [if_neg known]
    have fresh : ¬ IgnoresStream streamByte now slot := fun held => known (ignored.mpr held)
    by_cases head : burstType = voiceHead
    · rw [if_neg (not_not_intro head)]
      cases started : slot.inCall.started with
      | false => exact ⟨by simp [fresh, started], rfl, by simp, fun _ _ => rfl⟩
      | true =>
          simp only [Bool.not_true, Bool.false_eq_true, if_false]
          split
          case isTrue echo =>
            refine ⟨iff_of_true rfl (.inr ⟨head, started, recalled.mp echo⟩), rfl, fun _ => ?_,
              fun other apart => ?_⟩
            · have unended : burstType ≠ voiceTerm := by rw [head]; decide
              simp only [Function.update_self, if_neg unended]
            · simp only [Function.update_of_ne apart]
          case isFalse unknown =>
            refine ⟨iff_of_false Bool.false_ne_true ?_, rfl, by simp, fun _ _ => rfl⟩
            rintro (held | ⟨-, -, held⟩)
            · exact fresh held
            · exact unknown (recalled.mpr held)
    · rw [if_pos head]
      exact ⟨by simp [fresh, head], rfl, by simp, fun _ _ => rfl⟩

/-- The readings at which a callback may send lie within the window before the time. -/
def Within (cfg : Config) (now : Time) (clock : Clock) : Prop :=
  ∀ reading, 1 ≤ reading → clock reading ≤ now ∧ now < clock reading + cfg.ipscReflectWindow

theorem Within.shift {cfg : Config} {now : Time} {clock : Clock} (within : Within cfg now clock)
    (offset : Nat) : Within cfg now fun reading => clock (offset + reading) :=
  fun reading positive => within (offset + reading) (Nat.le_add_left_of_le positive)

/-- A refreshed table has every entry of another call, and those of the call with a later expiry. -/
theorem refreshRecent_spec (srcSub dstGroup : Bytes) (expires : Time)
    (entries : List (Bytes × Bytes × Time)) :
    (∀ entry ∈ entries, (entry.1 = srcSub ∧ entry.2.1 = dstGroup) ∨
      entry ∈ (refreshRecent srcSub dstGroup expires entries).1) ∧
    ((refreshRecent srcSub dstGroup expires entries).2 = true →
      (srcSub, dstGroup, expires) ∈ (refreshRecent srcSub dstGroup expires entries).1) := by
  induction entries with
  | nil => simp [refreshRecent]
  | cons first rest ih =>
      obtain ⟨src, dst, expiry⟩ := first
      unfold refreshRecent
      split
      case isTrue same =>
        refine ⟨fun entry member => ?_, fun _ => List.mem_cons_self⟩
        rcases List.mem_cons.mp member with rfl | later
        · exact .inl same
        · exact .inr (List.mem_cons_of_mem _ later)
      case isFalse =>
        refine ⟨fun entry member => ?_, fun found => List.mem_cons_of_mem _ (ih.2 found)⟩
        rcases List.mem_cons.mp member with rfl | later
        · exact .inr List.mem_cons_self
        · exact (ih.1 entry later).imp_right (List.mem_cons_of_mem _)

/-- A step on the HBP side leaves the ignored streams. Within the window it forgets no recalled call
and recalls the calls that it sends. -/
structure ReflectStep (cfg : Config) (clock : Clock) (before after : Slot) (actions : List Action) :
    Prop where
  ignore : after.reflect.ignore = before.reflect.ignore
  kept : ∀ now, Within cfg now clock → ∀ srcSub dstGroup, Recalls srcSub dstGroup now before →
    Recalls srcSub dstGroup now after
  sent : ∀ now, Within cfg now clock → ∀ entry, .sendToPeer entry ∈ actions →
    Recalls entry.srcSub entry.dstGroup now after

/-- A step that leaves the tables and sends nothing. -/
theorem ReflectStep.quiet {cfg : Config} {clock : Clock} {before after : Slot} {actions : List Action}
    (same : after.reflect = before.reflect) (silent : ∀ entry, .sendToPeer entry ∉ actions) :
    ReflectStep cfg clock before after actions := by
  refine ⟨congrArg Reflect.ignore same, ?_, fun _ _ entry member => absurd member (silent entry)⟩
  intro now _ srcSub dstGroup recalled
  rwa [Recalls, same]

theorem ReflectStep.trans {cfg : Config} {clock : Clock} {before middle after : Slot}
    {first second : List Action} (one : ReflectStep cfg clock before middle first)
    (two : ReflectStep cfg clock middle after second) :
    ReflectStep cfg clock before after (first ++ second) := by
  refine ⟨two.ignore.trans one.ignore, ?_, ?_⟩
  · intro now within srcSub dstGroup recalled
    exact two.kept now within srcSub dstGroup (one.kept now within srcSub dstGroup recalled)
  · intro now within entry member
    rcases List.mem_append.mp member with early | late
    · exact two.kept now within _ _ (one.sent now within entry early)
    · exact two.sent now within entry late

/-- The readings of a part of a callback come later. -/
theorem ReflectStep.shifted {cfg : Config} {clock : Clock} {offset : Nat} {before after : Slot}
    {actions : List Action}
    (part : ReflectStep cfg (fun reading => clock (offset + reading)) before after actions) :
    ReflectStep cfg clock before after actions :=
  ⟨part.ignore, fun now within => part.kept now (within.shift offset),
    fun now within => part.sent now (within.shift offset)⟩

/-- Only the tables of the two slots count. -/
theorem ReflectStep.congr {cfg : Config} {clock : Clock} {before after other : Slot}
    {actions : List Action} (step : ReflectStep cfg clock before after actions)
    (same : other.reflect = after.reflect) : ReflectStep cfg clock before other actions := by
  refine ⟨(congrArg Reflect.ignore same).trans step.ignore, ?_, ?_⟩
  · intro now within srcSub dstGroup recalled
    have kept := step.kept now within srcSub dstGroup recalled
    rwa [Recalls, same]
  · intro now within entry member
    have recalled := step.sent now within entry member
    rwa [Recalls, same]

/-- Remembering a packet recalls its call and keeps the others. -/
theorem rememberHbpToIpsc_recalls {cfg : Config} (suppresses : SuppressesEchoes cfg)
    (srcSub dstGroup : Bytes) {time now : Time} (past : time ≤ now)
    (inTime : now < time + cfg.ipscReflectWindow) (slot : Slot) :
    let after := rememberHbpToIpsc cfg srcSub dstGroup time slot
    Recalls srcSub dstGroup now after ∧
      ∀ otherSrc otherDst, Recalls otherSrc otherDst now slot → Recalls otherSrc otherDst now after := by
  have window : max 0 cfg.ipscReflectWindow = cfg.ipscReflectWindow :=
    max_eq_right (le_trans zero_le_one suppresses.window)
  have positive : ¬ cfg.ipscReflectWindow ≤ 0 := by
    have least := suppresses.window
    omega
  let expires : Time := time + cfg.ipscReflectWindow
  let refresh := refreshRecent srcSub dstGroup expires
    (slot.reflect.recent.filter fun entry => time < entry.2.2)
  obtain ⟨others, refreshed⟩ := refreshRecent_spec srcSub dstGroup expires
    (slot.reflect.recent.filter fun entry => time < entry.2.2)
  intro after
  have recent : after.reflect.recent =
      if refresh.2 then refresh.1 else refresh.1 ++ [(srcSub, dstGroup, expires)] := by
    simp only [after, rememberHbpToIpsc, suppresses.enabled, window, if_neg positive, Bool.not_true,
      Bool.false_eq_true, if_false]
    rfl
  have own : (srcSub, dstGroup, expires) ∈ after.reflect.recent := by
    rw [recent]
    split
    case isTrue found => exact refreshed found
    case isFalse => exact List.mem_append_right _ (List.mem_singleton_self _)
  have recalled : Recalls srcSub dstGroup now after := ⟨_, own, rfl, rfl, inTime⟩
  refine ⟨recalled, ?_⟩
  rintro otherSrc otherDst ⟨entry, member, rfl, rfl, lasts⟩
  have current : entry ∈ slot.reflect.recent.filter fun entry => time < entry.2.2 :=
    List.mem_filter.mpr ⟨member, decide_eq_true (lt_of_le_of_lt past lasts)⟩
  rcases others entry current with ⟨same, group⟩ | kept
  · rwa [same, group]
  · refine ⟨entry, ?_, rfl, rfl, lasts⟩
    rw [recent]
    split
    case isTrue => exact kept
    case isFalse => exact List.mem_append_left _ kept

theorem sendHbpToIpscNow_reflect {cfg : Config} (suppresses : SuppressesEchoes cfg)
    (entry : QueueEntry) (clock : Clock) (slot : Slot) :
    ReflectStep cfg clock slot (sendHbpToIpscNow cfg entry clock slot).1
      (sendHbpToIpscNow cfg entry clock slot).2 := by
  unfold sendHbpToIpscNow
  split
  case isTrue => exact .quiet rfl (by simp)
  case isFalse =>
    refine ⟨?_, ?_, ?_⟩
    · simp only [rememberHbpToIpsc]
      split_ifs <;> rfl
    · intro now within srcSub dstGroup recalled
      obtain ⟨past, inTime⟩ := within 1 le_rfl
      exact (rememberHbpToIpsc_recalls suppresses _ _ past inTime slot).2 _ _ recalled
    · intro now within other member
      obtain ⟨past, inTime⟩ := within 1 le_rfl
      obtain rfl : other = entry := by simpa using member
      exact (rememberHbpToIpsc_recalls suppresses _ _ past inTime slot).1

theorem sendHbpToIpsc_reflect {cfg : Config} (suppresses : SuppressesEchoes cfg)
    (entry : QueueEntry) (clock : Clock) (slot : Slot) :
    ReflectStep cfg clock slot (sendHbpToIpsc cfg entry clock slot).1
      (sendHbpToIpsc cfg entry clock slot).2 := by
  cases paced : cfg.hbpToIpscPacing with
  | true =>
      have outcome := sendHbpToIpsc_cases cfg entry clock slot
      generalize sendHbpToIpsc cfg entry clock slot = sent at outcome
      rcases sent with ⟨after, actions⟩
      cases outcome with
      | direct after actions unpaced => exact Bool.noConfusion (paced.symm.trans unpaced)
      | full | queued => exact .quiet rfl (by simp)
  | false =>
      unfold sendHbpToIpsc
      rw [paced]
      have generated : ReflectStep cfg clock slot slot [.generate entry] := .quiet rfl (by simp)
      exact generated.trans (sendHbpToIpscNow_reflect suppresses entry clock slot)

theorem generatePacket_reflect {cfg : Config} (suppresses : SuppressesEchoes cfg) (shared : Shared)
    (frame : HbpFrame) (callInfo rtpPt : UInt8) (gvPayload : Bytes) (burstType : UInt8)
    (clock : Clock) (slot : Slot) :
    ReflectStep cfg clock slot
      (generatePacket cfg shared frame callInfo rtpPt gvPayload burstType clock slot).1
      (generatePacket cfg shared frame callInfo rtpPt gvPayload burstType clock slot).2 := by
  have made : ReflectStep cfg clock slot { slot with inCall := slot.inCall.advance } [] :=
    .quiet rfl (by simp)
  exact made.trans (sendHbpToIpsc_reflect suppresses _ clock _)

theorem emitHbpIpscStart_reflect (dmr : DmrUtils) {cfg : Config} (suppresses : SuppressesEchoes cfg)
    (shared : Shared) (frame : HbpFrame) (clock : Clock) (slot : Slot) :
    ReflectStep cfg clock slot (emitHbpIpscStart dmr cfg shared frame clock slot).1
      (emitHbpIpscStart dmr cfg shared frame clock slot).2 := by
  unfold emitHbpIpscStart
  split
  case isTrue => exact .quiet rfl (by simp)
  case isFalse =>
    have heads := emitHeads_invariant dmr cfg shared frame
      (truthyOr slot.inCall.lc (dmr.lcOpt ++ frame.dstGroup ++ frame.srcSub)) clock
      (fun _ actions after => ReflectStep cfg clock slot after actions)
      (fun idx _ _ before => before.trans
        (generatePacket_reflect suppresses shared frame _ _ _ _ _ _).shifted)
      cfg.headerCount 0 [] slot (.quiet rfl (by simp))
    exact heads.congr rfl

theorem continueVoice_reflect (dmr : DmrUtils) {cfg : Config} (suppresses : SuppressesEchoes cfg)
    (frame : HbpFrame) (clock : Clock) (shared : Shared) (slot : Slot) :
    ReflectStep cfg (fun reading => clock (2 + reading)) slot
      (continueVoice dmr cfg frame clock shared slot).1
      (continueVoice dmr cfg frame clock shared slot).2 := by
  have start := emitHbpIpscStart_reflect dmr suppresses shared frame
    (fun reading => clock (2 + reading)) slot
  unfold continueVoice
  simp only
  split
  case h_1 => exact start.trans (.quiet rfl (by simp))
  case h_2 gvPayload built =>
    have voice := generatePacket_reflect suppresses shared frame frame.callInfo 0x5d gvPayload
      frame.slotBurst (fun reading => clock (12 + reading))
      (emitHbpIpscStart dmr cfg shared frame (fun reading => clock (2 + reading)) slot).1
    have later : (fun reading => clock (12 + reading)) =
        fun reading => (fun reading => clock (2 + reading)) (10 + reading) := by
      funext reading
      change clock (12 + reading) = clock (2 + (10 + reading))
      congr 1
      omega
    rw [later] at voice ⊢
    exact start.trans voice.shifted

/-- What an admitted frame does to the tables. -/
theorem HbpOutcome.reflect {dmr : DmrUtils} {cfg : Config} (suppresses : SuppressesEchoes cfg)
    {frame : HbpFrame} {draw : RtpDraw} {clock : Clock} {shared : Shared} {slot : Slot}
    {result : Shared × Slot × List Action}
    (outcome : HbpOutcome dmr cfg frame draw clock shared slot result) :
    ReflectStep cfg (fun reading => clock (2 + reading)) slot result.2.1 result.2.2 := by
  cases outcome with
  | foreignTerm | headMerged | voiceIgnored | endedSilent => exact .quiet rfl (by simp)
  | headOpened opened head fresh waits recorded =>
      subst recorded
      exact .quiet rfl (by simp)
  | headStarted opened head fresh atOnce recorded =>
      subst recorded
      have recordedCall : ReflectStep cfg (fun reading => clock (2 + reading)) slot
          (openHbpCall dmr frame (decodeHbpVoiceLc dmr frame.payload) draw (clock 0) shared slot).2
          [] := .quiet rfl (by simp)
      exact recordedCall.trans (emitHbpIpscStart_reflect dmr suppresses _ frame _ _)
  | ended =>
      have sent : ReflectStep cfg (fun reading => clock (2 + reading)) slot
          (sendHbpTerm dmr cfg frame clock shared slot).1
          (sendHbpTerm dmr cfg frame clock shared slot).2 :=
        generatePacket_reflect suppresses shared frame _ _ _ _ _ _
      exact sent.congr rfl
  | voiceContinued => exact continueVoice_reflect dmr suppresses frame clock shared slot
  | voiceOpened opened notHead notTerm closed flow recorded =>
      subst recorded
      have recordedCall : ReflectStep cfg (fun reading => clock (2 + reading)) slot
          (openHbpCall dmr frame (frameLc dmr frame) draw (clock 0) shared slot).2 [] :=
        .quiet rfl (by simp)
      exact recordedCall.trans (continueVoice_reflect dmr suppresses frame clock _ _)

theorem hbpFrameReceived_reflect (dmr : DmrUtils) {cfg : Config} (suppresses : SuppressesEchoes cfg)
    (frame : HbpFrame) (draw : RtpDraw) (clock : Clock) (shared : Shared) (slot : Slot) :
    ReflectStep cfg (fun reading => clock (2 + reading)) slot
      (hbpFrameReceived dmr cfg frame draw clock shared slot).2.1
      (hbpFrameReceived dmr cfg frame draw clock shared slot).2.2 := by
  obtain ⟨blocked, lock, -, received⟩ := hbpFrameReceived_cases dmr cfg frame draw clock shared slot
  rw [received]
  have stamped : ReflectStep cfg (fun reading => clock (2 + reading)) slot
      { slot with inCall.lastPkt := clock 0, lock := lock } [] := .quiet rfl (by simp)
  cases blocked with
  | true => exact stamped
  | false =>
      have outcome := hbpAdmitted_cases dmr cfg frame draw clock shared
        { slot with inCall.lastPkt := clock 0, lock := lock }
      exact stamped.trans (outcome.reflect suppresses)

theorem drainHbpToIpscQueue_reflect {cfg : Config} (suppresses : SuppressesEchoes cfg) (clock : Clock)
    (slot : Slot) :
    ReflectStep cfg clock slot (drainHbpToIpscQueue cfg clock slot).1
      (drainHbpToIpscQueue cfg clock slot).2 := by
  unfold drainHbpToIpscQueue
  simp only
  split
  case h_1 =>
    obtain ⟨lockUntil, drained⟩ := hbpIpscQueueDrained_frame cfg (clock 0)
      { slot with tx.handle := none }
    rw [drained]
    exact .quiet rfl (by simp)
  case h_2 entry rest first =>
    have cancelled : ReflectStep cfg clock slot
        { slot with tx := { slot.tx with queue := rest, handle := none } } [] := .quiet rfl (by simp)
    have sent := cancelled.trans (sendHbpToIpscNow_reflect suppresses entry clock _)
    refine sent.congr ?_
    split
    case isTrue =>
      obtain ⟨handle, lockUntil, scheduled⟩ := scheduleHbpToIpscDrain_frame cfg (clock 3)
        { (sendHbpToIpscNow cfg entry clock
            { slot with tx := { slot.tx with queue := rest, handle := none } }).1 with
          tx.nextAt := clock 2 + cfg.frameInterval }
      rw [scheduled]
    case isFalse =>
      obtain ⟨lockUntil, drained⟩ := hbpIpscQueueDrained_frame cfg (clock 3)
        { (sendHbpToIpscNow cfg entry clock
            { slot with tx := { slot.tx with queue := rest, handle := none } }).1 with
          tx.nextAt := clock 2 + cfg.frameInterval }
      rw [drained]

end Ipsc2Hbp
