import Ipsc2Hbp.Construction.DmrCodec
import Ipsc2Hbp.Construction.Packets
import Ipsc2Hbp.Proof.Exclusive

namespace Ipsc2Hbp
open BigEndian

/-- The talkgroup in the LC of the outbound call. -/
def OutCall.talkgroup (outCall : OutCall) : Option Bytes := outCall.lc.map fun lc => lc.extract 3 6

/-- An HBP→IPSC call is open on the slot. -/
def InCall.Open (inCall : InCall) : Prop := inCall.lc ≠ none ∨ inCall.started = true

instance (inCall : InCall) : Decidable inCall.Open :=
  inferInstanceAs (Decidable (inCall.lc ≠ none ∨ inCall.started = true))

/-- Both directions have an open call for one talkgroup. -/
def SharesTalkgroup (slot : Slot) : Prop :=
  slot.outCall.streamId ≠ none ∧ slot.inCall.Open ∧ slot.inCall.dstGroup ≠ none ∧
    slot.outCall.talkgroup = slot.inCall.dstGroup

instance (slot : Slot) : Decidable (SharesTalkgroup slot) :=
  inferInstanceAs (Decidable (_ ∧ _ ∧ _ ∧ _))

/-- The lock is held for a direction's call of the talkgroup, or the stream is already rejected. -/
def CallLock.Guards (lock : CallLock) (owner : Direction) (dstGroup : Bytes) (key : StreamKey)
    (now : Time) : Prop :=
  (lock.owner = some owner ∧ lock.tg = some dstGroup) ∨ ((lock.prune now).blocked key).isSome = true

instance (lock : CallLock) (owner : Direction) (dstGroup : Bytes) (key : StreamKey) (now : Time) :
    Decidable (lock.Guards owner dstGroup key now) :=
  inferInstanceAs (Decidable ((_ ∧ _) ∨ _))

/-- A packet gives the outbound call its talkgroup when it is a header that is not ignored
as a repeat of the legacy flow, or a burst E that enters late. -/
def SetsTalkgroup (cfg : Config) (data : Bytes) (burstType : UInt8) (slot : Slot) : Prop :=
  (burstType = voiceHead ∧ (cfg.legacyFlow = true → slot.outCall.streamId = none ∨
    (slot.outCall.ipscStreamByte ≠ data[gvIpscSeqOff]? ∧ data[gvIpscSeqOff]? ≠ none))) ∨
  (burstType ≠ voiceHead ∧ burstType ≠ voiceTerm ∧ slot.outCall.streamId = none ∧
    cfg.legacyFlow = false ∧ data[32]? = some 0x16)

instance (cfg : Config) (data : Bytes) (burstType : UInt8) (slot : Slot) :
    Decidable (SetsTalkgroup cfg data burstType slot) :=
  inferInstanceAs (Decidable ((_ ∧ (_ → _)) ∨ (_ ∧ _ ∧ _ ∧ _ ∧ _)))

/-- A frame opens an inbound call when it is a header of its own or voice that enters late. -/
def OpensInbound (cfg : Config) (frame : HbpFrame) (now : Time) (slot : Slot) : Prop :=
  (frame.isHead = true ∧ duplicateHead frame now slot = false) ∨
  (frame.isHead = false ∧ frame.isTerm = false ∧ slot.inCall.lc = none ∧ cfg.legacyFlow = false)

instance (cfg : Config) (frame : HbpFrame) (now : Time) (slot : Slot) :
    Decidable (OpensInbound cfg frame now slot) :=
  inferInstanceAs (Decidable ((_ ∧ _) ∨ (_ ∧ _ ∧ _ ∧ _)))

/-- A packet that opens a call for the talkgroup of an open call of the other direction meets
a lock that is held for that call, or is rejected or suppressed already. -/
def CollisionGuarded (dmr : DmrUtils) (cfg : Config) (slot : Slot) : SlotEvent → Prop
  | .ipscVoice _ data burstType _ clock =>
      SetsTalkgroup cfg data burstType slot → slot.inCall.Open →
      slot.inCall.dstGroup = some ((gvLc dmr data).extract 3 6) →
      slot.lock.Guards .hbp (gvDstGroup data) (.ipsc data[gvIpscSeqOff]?) (clock 2) ∨
        (shouldSuppressIpscReflection cfg data[gvIpscSeqOff]? burstType (gvSrcSub data)
          (gvDstGroup data) (clock 3) slot).1 = true
  | .hbpFrame frame _ clock =>
      OpensInbound cfg frame (clock 0) slot → slot.outCall.streamId ≠ none →
      slot.outCall.talkgroup = some frame.dstGroup →
      slot.lock.Guards .ipsc frame.dstGroup (.hbp frame.stream) (clock 1)
  | _ => True

instance (dmr : DmrUtils) (cfg : Config) (slot : Slot) :
    ∀ part, Decidable (CollisionGuarded dmr cfg slot part)
  | .ipscVoice .. => inferInstanceAs (Decidable (_ → _ → _ → _ ∨ _))
  | .hbpFrame .. => inferInstanceAs (Decidable (_ → _ → _ → _))
  | .drain _ | .checkCallTimeouts .. | .peerLost | .hbpDisconnected => isTrue trivial

/-- A guarded packet of the other direction's open call is not let in. -/
theorem LockVerdict.not_admitted {cfg : Config} {slot : Slot} {key : StreamKey} {dstGroup : Bytes}
    {now : Time} {lock : CallLock} (verdict : LockVerdict cfg slot key dstGroup now false lock)
    (enabled : cfg.ipscCallLock = true)
    (guarded : slot.lock.Guards key.direction.other dstGroup key now)
    (active : directionActive slot key.direction.other = true) : False := by
  rcases guarded with ⟨owned, group⟩ | rejected
  · have alive := callLockIsActive_of_directionActive owned active now
    cases verdict with
    | off disabled => rw [enabled] at disabled; cases disabled
    | acquired lock fresh free =>
        rcases free with unowned | lapsed
        · rw [owned] at unowned; cases unowned
        · rw [alive] at lapsed; cases lapsed
    | continued lock fresh same owner =>
        rw [owned] at owner
        exact key.direction.ne_other (Option.some.inj owner).symm
    | otherGroup lock fresh same owner active sameTgOnly differs => exact differs group
  · cases verdict with
    | off disabled => rw [enabled] at disabled; cases disabled
    | acquired lock fresh => rw [rejected] at fresh; cases fresh
    | continued lock fresh => rw [rejected] at fresh; cases fresh
    | otherGroup lock fresh => rw [rejected] at fresh; cases fresh

/-- Calls that only end or keep their talkgroups keep the law. -/
theorem SharesTalkgroup.of_after {before after : Slot} (shares : SharesTalkgroup after)
    (out : after.outCall.streamId = none ∨ (after.outCall.streamId = before.outCall.streamId ∧
      after.outCall.lc = before.outCall.lc))
    (call : after.inCall.Open →
      before.inCall.Open ∧ after.inCall.dstGroup = before.inCall.dstGroup) :
    SharesTalkgroup before := by
  obtain ⟨opened, callOpen, grouped, same⟩ := shares
  obtain ⟨sameStream, sameLc⟩ := out.resolve_left opened
  obtain ⟨wasOpen, sameGroup⟩ := call callOpen
  refine ⟨sameStream ▸ opened, wasOpen, sameGroup ▸ grouped, ?_⟩
  rw [← sameGroup, ← same, OutCall.talkgroup, OutCall.talkgroup, sameLc]

/-- An open inbound call makes its direction active. -/
theorem InCall.Open.active {slot : Slot} (opened : slot.inCall.Open) :
    directionActive slot .hbp = true :=
  (directionActive_hbp slot).mpr (opened.imp id .inl)

/-- A guarded IPSC packet gives the outbound call no talkgroup of the open inbound call. -/
theorem CollisionGuarded.ipsc_apart {dmr : DmrUtils} {cfg : Config} {slot : Slot}
    {connected : Bool} {data : Bytes} {burstType : UInt8} {urandom : StreamId} {clock : Clock}
    (guarded : CollisionGuarded dmr cfg slot (.ipscVoice connected data burstType urandom clock))
    (enabled : cfg.ipscCallLock = true) {outCall : OutCall} {lockUntil : Time} {lock : CallLock}
    (verdict : LockVerdict cfg { slot with outCall := outCall, lock.lockUntil := lockUntil }
      (.ipsc data[gvIpscSeqOff]?) (gvDstGroup data) (clock 2) false lock)
    (heard : (shouldSuppressIpscReflection cfg data[gvIpscSeqOff]? burstType (gvSrcSub data)
      (gvDstGroup data) (clock 3) { slot with outCall := outCall, lock := lock }).1 = false)
    (sets : SetsTalkgroup cfg data burstType slot) {after : Slot} (shares : SharesTalkgroup after)
    (call : after.inCall = slot.inCall) (given : after.outCall.lc = some (gvLc dmr data)) : False := by
  obtain ⟨-, opened, -, same⟩ := shares
  rw [call] at opened same
  have group : slot.inCall.dstGroup = some ((gvLc dmr data).extract 3 6) := by
    rw [← same, OutCall.talkgroup, given]
    rfl
  rcases guarded sets opened group with held | suppressed
  · exact verdict.not_admitted enabled held opened.active
  · have same := shouldSuppressIpscReflection_congr cfg data[gvIpscSeqOff]? burstType
      (gvSrcSub data) (gvDstGroup data) (clock 3) { slot with outCall := outCall, lock := lock } slot
      rfl rfl
    exact Bool.false_ne_true (heard.symm.trans (same.trans suppressed))

/-- A guarded IPSC packet keeps the talkgroups of the two directions apart. -/
theorem talkgroups_apart_ipsc {dmr : DmrUtils} {cfg : Config} {ts : Timeslot} {shared : Shared}
    {slot : Slot} {connected : Bool} {data : Bytes} {burstType : UInt8} {urandom : StreamId}
    {clock : Clock} (enabled : cfg.ipscCallLock = true)
    (guarded : CollisionGuarded dmr cfg slot (.ipscVoice connected data burstType urandom clock))
    (before : ¬ SharesTalkgroup slot) :
    ¬ SharesTalkgroup
      (ipscVoiceReceived dmr cfg connected data ts burstType urandom clock shared slot).2.1 := by
  intro shares
  cases connected with
  | false => exact before shares
  | true =>
      rw [ipscVoiceReceived_eq] at shares
      obtain ⟨outCall, lockUntil, framed, streams⟩ :=
        legacyPrelude_frame cfg data burstType clock slot
      have kept : ∀ after : Slot, SharesTalkgroup after → after.inCall = slot.inCall →
          (after.outCall.streamId = outCall.streamId ∧ after.outCall.lc = outCall.lc) → False := by
        rintro after sharing call ⟨sameStream, sameLc⟩
        refine before (sharing.of_after ?_ fun opened => ?_)
        · rwa [sameStream, sameLc]
        · rw [call] at opened ⊢
          exact ⟨opened, rfl⟩
      have gate := ipscGate_cases cfg data burstType clock slot
      generalize ipscGate cfg data burstType clock slot = passed at gate shares
      rcases passed with ⟨dropped, after⟩
      have closed := legacyPrelude_closed cfg data burstType clock slot
      rw [framed] at closed gate
      cases gate with
      | stale | blocked | suppressed => exact kept _ shares rfl ⟨rfl, rfl⟩
      | admitted lock reflect verdict heard =>
          have outcome := sendBurst_cases dmr cfg ts data burstType urandom (clock 5)
            (shared.learn data) { slot with
              outCall := outCall, lock := lock, reflect := reflect, ipscBusyLast := clock 4 }
          simp only [Bool.false_eq_true, if_false] at shares
          generalize sendBurst cfg ts (gvSrcSub data) (gvDstGroup data) burstType (clock 5)
            (shared.learn data) _ = result at outcome shares
          rcases result with ⟨shared', after, actions⟩
          cases outcome with
          | ignored | outOfRange | voiceSent => exact kept _ shares rfl ⟨rfl, rfl⟩
          | ended => exact shares.1 rfl
          | headOpened head shut =>
              refine guarded.ipsc_apart enabled verdict heard (.inl ⟨head, fun _ => ?_⟩) shares rfl rfl
              exact (closed shut).imp id fun restarted => restarted.2
          | headRepeated streamId head opened flow =>
              refine guarded.ipsc_apart enabled verdict heard (.inl ⟨head, fun legacy => ?_⟩) shares rfl rfl
              rw [flow] at legacy
              cases legacy
          | enteredLate late long =>
              refine guarded.ipsc_apart enabled verdict heard
                (.inr ⟨late.voice.1, late.voice.2, ?_, late.flow, late.mark⟩) shares rfl rfl
              refine (closed late.closed).resolve_right fun restarted => ?_
              rw [late.flow] at restarted
              cases restarted.1
          | enteredSilent late short =>
              refine guarded.ipsc_apart enabled verdict heard
                (.inr ⟨late.voice.1, late.voice.2, ?_, late.flow, late.mark⟩) shares rfl rfl
              refine (closed late.closed).resolve_right fun restarted => ?_
              rw [late.flow] at restarted
              cases restarted.1

/-- A step that keeps or continues both calls keeps the talkgroups apart. -/
theorem talkgroups_apart_continued {before after : Slot} (apart : ¬ SharesTalkgroup before)
    (out : after.outCall = before.outCall) (opened : before.inCall.Open)
    (call : after.inCall.dstGroup = before.inCall.dstGroup) : ¬ SharesTalkgroup after :=
  fun shares => apart (shares.of_after (.inr ⟨by rw [out], by rw [out]⟩) fun _ => ⟨opened, call⟩)

/-- A guarded HBP frame opens no inbound call for the talkgroup of the open outbound call. -/
theorem CollisionGuarded.hbp_apart {dmr : DmrUtils} {cfg : Config} {slot : Slot} {frame : HbpFrame}
    {draw : RtpDraw} {clock : Clock}
    (guarded : CollisionGuarded dmr cfg slot (.hbpFrame frame draw clock))
    (enabled : cfg.ipscCallLock = true) {lock : CallLock}
    (verdict : LockVerdict cfg { slot with inCall.lastPkt := clock 0 } (.hbp frame.stream)
      frame.dstGroup (clock 1) false lock)
    (opens : OpensInbound cfg frame (clock 0) slot) {after : Slot} (shares : SharesTalkgroup after)
    (out : after.outCall = slot.outCall) (given : after.inCall.dstGroup = some frame.dstGroup) :
    False := by
  obtain ⟨opened, -, -, same⟩ := shares
  rw [out] at opened same
  rw [given] at same
  refine verdict.not_admitted enabled (guarded opens opened same) ?_
  exact Option.isSome_iff_ne_none.mpr opened

/-- A guarded HBP frame keeps the talkgroups of the two directions apart. -/
theorem talkgroups_apart_hbp {dmr : DmrUtils} {cfg : Config} {shared : Shared} {slot : Slot}
    {frame : HbpFrame} {draw : RtpDraw} {clock : Clock} (enabled : cfg.ipscCallLock = true)
    (guarded : CollisionGuarded dmr cfg slot (.hbpFrame frame draw clock))
    (before : ¬ SharesTalkgroup slot) :
    ¬ SharesTalkgroup (hbpFrameReceived dmr cfg frame draw clock shared slot).2.1 := by
  obtain ⟨blocked, lock, verdict, received⟩ :=
    hbpFrameReceived_cases dmr cfg frame draw clock shared slot
  rw [received]
  cases blocked with
  | true => exact before
  | false =>
      simp only [Bool.false_eq_true, if_false]
      have outcome := hbpAdmitted_cases dmr cfg frame draw clock shared
        { slot with inCall.lastPkt := clock 0, lock := lock }
      have out := outcome.side.outCall
      generalize hbpAdmitted dmr cfg frame draw clock shared _ = result at outcome out
      cases outcome with
      | foreignTerm | voiceIgnored => exact before
      | headMerged head duplicate =>
          have opened : slot.inCall.lc.isSome = true := (Bool.and_eq_true _ _ ▸ duplicate).1
          exact talkgroups_apart_continued before rfl (.inl (Option.isSome_iff_ne_none.mp opened)) rfl
      | headOpened opened head fresh waits recorded =>
          subst recorded
          exact fun shares => guarded.hbp_apart enabled verdict (.inl ⟨head, fresh⟩) shares rfl rfl
      | headStarted opened head fresh atOnce recorded =>
          subst recorded
          obtain ⟨_, _, _, continued⟩ := emitHbpIpscStart_continues dmr cfg _ frame
            (fun reading => clock (2 + reading)) _
          exact fun shares => guarded.hbp_apart enabled verdict (.inl ⟨head, fresh⟩) shares out
            (by rw [continued]; rfl)
      | endedSilent | ended => exact fun shares => shares.2.2.1 rfl
      | voiceContinued notHead notTerm opened =>
          obtain ⟨_, _, _, continued⟩ := continueVoice_continues dmr cfg frame clock shared
            { slot with inCall.lastPkt := clock 0, lock := lock }
          exact talkgroups_apart_continued before out (.inl (Option.isSome_iff_ne_none.mp opened))
            (by rw [continued])
      | voiceOpened opened notHead notTerm closed flow recorded =>
          subst recorded
          obtain ⟨_, _, _, continued⟩ := continueVoice_continues dmr cfg frame clock _ _
          exact fun shares => guarded.hbp_apart enabled verdict
            (.inr ⟨notHead, notTerm, closed, flow⟩) shares out (by rw [continued]; rfl)

/-- Every guarded step of a slot keeps the talkgroups of the two directions apart. -/
theorem talkgroups_apart_step {dmr : DmrUtils} {cfg : Config} {ts : Timeslot} {shared : Shared}
    {slot : Slot} {part : SlotEvent} (enabled : cfg.ipscCallLock = true)
    (guarded : CollisionGuarded dmr cfg slot part) (before : ¬ SharesTalkgroup slot) :
    ¬ SharesTalkgroup (slotStep dmr cfg ts shared slot part).2.1 := by
  cases part with
  | ipscVoice connected data burstType urandom clock =>
      exact talkgroups_apart_ipsc enabled guarded before
  | hbpFrame frame draw clock => exact talkgroups_apart_hbp enabled guarded before
  | drain clock =>
      have outcome := drainHbpToIpscQueue_cases cfg clock slot
      refine fun shares => before (shares.of_after (.inr ?_) fun opened => ?_)
      · exact ⟨congrArg (·.streamId) outcome.side.outCall, congrArg (·.lc) outcome.side.outCall⟩
      · change InCall.Open (drainHbpToIpscQueue cfg clock slot).1.inCall at opened
        rw [outcome.inCall] at opened
        exact ⟨opened, congrArg (·.dstGroup) outcome.inCall⟩
  | checkCallTimeouts timeout clock =>
      obtain ⟨out, call⟩ := checkCallTimeouts_frame cfg timeout clock ts slot
      refine fun shares => before (shares.of_after ?_ fun opened => ?_)
      · rcases out with same | closed
        · exact .inr ⟨congrArg (·.streamId) same, congrArg (·.lc) same⟩
        · exact .inl closed
      · rcases call with same | reset
        · exact ⟨same ▸ opened, congrArg (·.dstGroup) same⟩
        · exact absurd (congrArg (·.dstGroup) reset) shares.2.2.1
  | peerLost => exact fun shares => shares.1 rfl
  | hbpDisconnected => exact fun shares => shares.1 rfl

/-- With the lock on, no guarded run reaches a state in which both directions of a timeslot
have an open call for one talkgroup. -/
theorem talkgroups_apart_of_guarded (dmr : DmrUtils) (cfg : Config) (enabled : cfg.ipscCallLock = true)
    (ts : Timeslot) (events : List Event)
    (guarded : SlotMeets dmr cfg ts (fun _ => CollisionGuarded dmr cfg) Translator.initial events) :
    ¬ SharesTalkgroup (((translator dmr cfg).run Translator.initial events).1.slot ts) :=
  slot_run_invariant dmr cfg ts _ (fun _ slot => ¬ SharesTalkgroup slot)
    (fun _ _ _ _ _ _ guarded before => talkgroups_apart_step enabled guarded before)
    Translator.initial events Translator.initial_wide guarded fun shares => shares.1 rfl

/-- A repeater's call collides with the master's call on talkgroup 1 and is rejected. -/
def collidingRun : List Event :=
  [.hbpVoice true (masterHead dmrCodec [1, 1, 1, 1] [0, 0, 7] [0, 0, 1]) rtpDraw fun _ => 100,
    .ipscVoice true (peerHead dmrCodec 5 [0, 0, 9] [0, 0, 1]) .ts1 voiceHead firstDraw
      fun _ => 101]

theorem talkgroups_apart_of_guarded_colliding :
    (((translator dmrCodec {}).run Translator.initial collidingRun).1.slot .ts1).inCall.Open ∧
      ¬ SharesTalkgroup
        (((translator dmrCodec {}).run Translator.initial collidingRun).1.slot .ts1) :=
  ⟨by decide +kernel,
    talkgroups_apart_of_guarded dmrCodec {} rfl .ts1 collidingRun (by decide +kernel)⟩

/-- The master's call on talkgroup 1 owns the lock while a repeater's call on talkgroup 2 is let
in; the master's next header then moves to talkgroup 2. -/
def crossingRun : List Event :=
  [.hbpVoice true (masterHead dmrCodec [1, 1, 1, 1] [0, 0, 7] [0, 0, 1]) rtpDraw fun _ => 100,
    .ipscVoice true (peerHead dmrCodec 5 [0, 0, 9] [0, 0, 2]) .ts1 voiceHead firstDraw
      fun _ => 101,
    .hbpVoice true (masterHead dmrCodec [2, 2, 2, 2] [0, 0, 7] [0, 0, 2]) rtpDraw fun _ => 102]

/-- The defaults let the two directions share talkgroup 2. -/
theorem talkgroup_shared_crossing :
    ({} : Config).ipscCallLock = true ∧ ({} : Config).ipscCallLockSameTgOnly = true ∧
      ¬ ∀ events ts,
        ¬ SharesTalkgroup (((translator dmrCodec {}).run Translator.initial events).1.slot ts) :=
  ⟨rfl, rfl, fun apart => apart crossingRun .ts1 (by decide +kernel)⟩

end Ipsc2Hbp
