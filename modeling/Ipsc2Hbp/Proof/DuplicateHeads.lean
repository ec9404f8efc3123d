import Ipsc2Hbp.Proof.Terminators

namespace Ipsc2Hbp
open BigEndian

/-- The record of a call without the times of its last frames. -/
def InCall.untimed (inCall : InCall) : InCall := { inCall with lastHead := 0, lastPkt := 0 }

theorem InCall.advance_untimed (inCall : InCall) : inCall.advance.untimed = inCall.untimed.advance := rfl

/-- What does not read those times is the same in both calls. -/
theorem InCall.read_untimed {one two : InCall} (same : one.untimed = two.untimed) {α : Type}
    (read : InCall → α) (blind : ∀ inCall, read inCall.untimed = read inCall) : read one = read two := by
  rw [← blind one, same, blind two]

/-- Two handlers leave the same call and generate the same packets. -/
structure SameCallRun (one two : Slot × List Action) : Prop where
  inCall : one.1.inCall.untimed = two.1.inCall.untimed
  entries : generatedEntries one.2 = generatedEntries two.2

@[simp] theorem generatedEntries_append (first second : List Action) :
    generatedEntries (first ++ second) = generatedEntries first ++ generatedEntries second :=
  List.filterMap_append

section SameCallRun
variable (dmr : DmrUtils) (cfg : Config) (shared : Shared) (frame : HbpFrame)

/-- A generated packet depends on the record of the call alone. -/
theorem generatePacket_sameCallRun (callInfo rtpPt : UInt8) (gvPayload : Bytes) (burstType : UInt8)
    (clock other : Clock) {one two : Slot} (same : one.inCall.untimed = two.inCall.untimed) :
    SameCallRun (generatePacket cfg shared frame callInfo rtpPt gvPayload burstType clock one)
      (generatePacket cfg shared frame callInfo rtpPt gvPayload burstType other two) := by
  constructor
  · rw [generatePacket_inCall, generatePacket_inCall, InCall.advance_untimed, InCall.advance_untimed,
      same]
  · rw [generatePacket_entries, generatePacket_entries]
    exact InCall.read_untimed same (fun inCall =>
      [callEntry cfg shared frame callInfo rtpPt gvPayload burstType inCall]) fun _ => rfl

/-- So do the headers of a call. -/
theorem emitHeads_sameCallRun (lc : Bytes) (clock other : Clock) (count idx : Nat) {one two : Slot}
    (same : one.inCall.untimed = two.inCall.untimed) :
    SameCallRun (emitHeads dmr cfg shared frame lc clock count idx one)
      (emitHeads dmr cfg shared frame lc other count idx two) := by
  induction count generalizing idx one two with
  | zero => exact ⟨same, rfl⟩
  | succ count ih =>
      have sent := generatePacket_sameCallRun cfg shared frame frame.callInfo
        (if idx = 0 then 0xdd else 0x5d) ([voiceHead] ++ buildIpscVoicePayload dmr lc voiceHead)
        voiceHead (fun reading => clock (2 * idx + reading)) (fun reading => other (2 * idx + reading))
        same
      have rest := ih (idx + 1) sent.inCall
      constructor
      · exact rest.inCall
      · simp only [emitHeads, generatedEntries_append]
        rw [sent.entries, rest.entries]

theorem emitHbpIpscStart_sameCallRun (clock other : Clock) {one two : Slot}
    (same : one.inCall.untimed = two.inCall.untimed) :
    SameCallRun (emitHbpIpscStart dmr cfg shared frame clock one)
      (emitHbpIpscStart dmr cfg shared frame other two) := by
  have started := InCall.read_untimed same InCall.started fun _ => rfl
  have lc := InCall.read_untimed same InCall.lc fun _ => rfl
  unfold emitHbpIpscStart
  rw [started, lc]
  split
  case isTrue => exact ⟨same, rfl⟩
  case isFalse =>
    have heads := emitHeads_sameCallRun dmr cfg shared frame
      (truthyOr two.inCall.lc (dmr.lcOpt ++ frame.dstGroup ++ frame.srcSub)) clock other
      cfg.headerCount 0 same
    constructor
    · exact congrArg (fun inCall : InCall => { inCall with started := true }) heads.inCall
    · exact heads.entries

/-- The payload of a voice burst reads the LC and the embedded LC of the call. -/
theorem hbpVoicePayload_congr {one two : Slot} (lc : one.inCall.lc = two.inCall.lc)
    (embLc : one.inCall.embLc = two.inCall.embLc) :
    hbpVoicePayload dmr frame one = hbpVoicePayload dmr frame two := by
  unfold hbpVoicePayload embFragment
  rw [lc, embLc]

theorem continueVoice_sameCallRun (clock other : Clock) {one two : Slot}
    (same : one.inCall.untimed = two.inCall.untimed) :
    SameCallRun (continueVoice dmr cfg frame clock shared one)
      (continueVoice dmr cfg frame other shared two) := by
  have start := emitHbpIpscStart_sameCallRun dmr cfg shared frame (fun reading => clock (2 + reading))
    (fun reading => other (2 + reading)) same
  unfold continueVoice
  simp only
  rw [hbpVoicePayload_congr dmr frame (InCall.read_untimed start.inCall InCall.lc fun _ => rfl)
    (InCall.read_untimed start.inCall InCall.embLc fun _ => rfl)]
  split
  case h_1 err failed =>
    constructor
    · exact start.inCall
    · rw [generatedEntries_append, generatedEntries_append, start.entries]
  case h_2 gvPayload built =>
    have sent := generatePacket_sameCallRun cfg shared frame frame.callInfo 0x5d gvPayload
      frame.slotBurst (fun reading => clock (12 + reading)) (fun reading => other (12 + reading))
      start.inCall
    constructor
    · exact sent.inCall
    · rw [generatedEntries_append, generatedEntries_append, start.entries, sent.entries]

theorem sendHbpTerm_sameCallRun (clock other : Clock) {one two : Slot}
    (same : one.inCall.untimed = two.inCall.untimed) :
    SameCallRun (sendHbpTerm dmr cfg frame clock shared one)
      (sendHbpTerm dmr cfg frame other shared two) := by
  have lc := InCall.read_untimed same InCall.lc fun _ => rfl
  unfold sendHbpTerm
  rw [lc]
  apply generatePacket_sameCallRun
  exact same

end SameCallRun

/-- The call lock lets in the frames of a stream to a talkgroup. -/
def CallLock.Admits (cfg : Config) (stream dstGroup : Bytes) (lock : CallLock) : Prop :=
  cfg.ipscCallLock = true → lock.blocked (.hbp stream) = none ∧
    (lock.owner = some .ipsc → cfg.ipscCallLockSameTgOnly = true ∧ lock.tg ≠ some dstGroup)

/-- A lock that lets a frame in lets in the stream from then on. -/
theorem LockVerdict.admits {cfg : Config} {slot : Slot} {stream srcSub dstGroup : Bytes}
    {isEnd : Bool} {now : Time} {lock : CallLock}
    (decided : callLockBlocks cfg slot (.hbp stream) srcSub dstGroup isEnd now =
      (false, { slot with lock := lock }))
    (verdict : LockVerdict cfg slot (.hbp stream) dstGroup now false lock) :
    lock.Admits cfg stream dstGroup := by
  intro enabled
  have entry := callLockBlocks_blocked enabled slot (.hbp stream) (.hbp stream) srcSub dstGroup isEnd
    now
  simp only [decided, Bool.false_eq_true, if_false] at entry
  rw [entry]
  cases verdict with
  | off disabled => exact absurd (disabled.symm.trans enabled) Bool.false_ne_true
  | acquired lock fresh free owner tg =>
      refine ⟨Option.not_isSome_iff_eq_none.mp (by simp [fresh]), fun taken => ?_⟩
      cases owner.symm.trans taken
  | continued lock fresh same owner active =>
      refine ⟨Option.not_isSome_iff_eq_none.mp (by simp [fresh]), fun taken => ?_⟩
      cases (same.owner.trans owner).symm.trans taken
  | otherGroup lock fresh same owner active sameTgOnly differs =>
      refine ⟨Option.not_isSome_iff_eq_none.mp (by simp [fresh]), fun _ => ⟨sameTgOnly, ?_⟩⟩
      rwa [same.tg]

/-- Such a lock lets the frame in and stays so. -/
theorem CallLock.Admits.letIn {cfg : Config} {stream dstGroup : Bytes} {slot : Slot}
    (admits : slot.lock.Admits cfg stream dstGroup) (srcSub : Bytes) (isEnd : Bool) (now : Time) :
    ∃ lock, callLockBlocks cfg slot (.hbp stream) srcSub dstGroup isEnd now =
      (false, { slot with lock := lock }) ∧ lock.Admits cfg stream dstGroup := by
  cases enabled : cfg.ipscCallLock with
  | false => exact ⟨slot.lock, by simp [callLockBlocks, enabled], admits⟩
  | true =>
      obtain ⟨unknown, group⟩ := admits enabled
      obtain ⟨blocked, lock, decided, verdict⟩ := callLockBlocks_verdict cfg slot (.hbp stream) srcSub
        dstGroup isEnd now
      have passed : blocked = false := by
        cases verdict with
        | off | acquired | continued | otherGroup => rfl
        | rejected lock same known =>
            rw [CallLock.blocked_prune, unknown] at known
            cases known
        | collision lock same owner active matching =>
            obtain ⟨sameTgOnly, differs⟩ := group owner
            exact absurd (matching sameTgOnly) differs
      subst passed
      exact ⟨lock, decided, verdict.admits decided⟩

/-- The frame belongs to the call that a header opens. -/
structure HbpFrame.Follows (frame head : HbpFrame) : Prop where
  stream : frame.stream = head.stream
  dstGroup : frame.dstGroup = head.dstGroup

/-- The call of a header is open on a timeslot, and the lock lets its frames in. -/
structure Slot.HeadCall (dmr : DmrUtils) (cfg : Config) (head : HbpFrame) (slot : Slot) : Prop where
  lc : slot.inCall.lc = some (decodeHbpVoiceLc dmr head.payload)
  embLc : slot.inCall.embLc = some (dmr.encodeEmblc (decodeHbpVoiceLc dmr head.payload))
  hbpStream : slot.inCall.hbpStream = some head.stream
  lock : slot.lock.Admits cfg head.stream head.dstGroup

section HeadCall
variable {dmr : DmrUtils} {cfg : Config} (ts : Timeslot) (shared : Shared) {head frame : HbpFrame}
  {slot : Slot} (draw : RtpDraw) (clock : Clock)

/-- A call that goes on stays the call of its header. -/
theorem Slot.HeadCall.continues {after before : Slot} (call : before.HeadCall dmr cfg head)
    (continues : after.inCall.Continues before.inCall)
    (lock : after.lock.Admits cfg head.stream head.dstGroup) : after.HeadCall dmr cfg head := by
  obtain ⟨rtpSeq, rtpTs, started, same⟩ := continues
  constructor
  · rw [same]
    exact call.lc
  · rw [same]
    exact call.embLc
  · rw [same]
    exact call.hbpStream
  · exact lock

/-- A header that opens a call makes it its own. -/
theorem Slot.headCall_opened (isHead : head.isHead = true)
    (opens : (SlotEvent.hbpFrame head draw clock).Opens cfg slot) :
    (slotStep dmr cfg ts shared slot (.hbpFrame head draw clock)).2.1.HeadCall dmr cfg head := by
  obtain ⟨letIn, way⟩ := opens
  have fresh : duplicateHead head (clock 0) slot = false := by
    rcases way with ⟨-, fresh⟩ | ⟨notHead, -⟩
    · exact fresh
    · exact absurd (notHead.symm.trans isHead) Bool.false_ne_true
  obtain ⟨blocked, lock, decided, verdict, received⟩ :=
    hbpFrameReceived_decided dmr cfg head draw clock shared slot
  have passed : blocked = false := by
    have unblocked : ((hbpLockPacket head clock).test cfg
        { slot with inCall.lastPkt := clock 0 }).1 = false := by
      simpa [SlotEvent.letIn] using letIn
    exact (congrArg Prod.fst decided).symm.trans unblocked
  subst passed
  have admits : lock.Admits cfg head.stream head.dstGroup := verdict.admits decided
  change (hbpFrameReceived dmr cfg head draw clock shared slot).2.1.HeadCall dmr cfg head
  rw [received, if_neg Bool.false_ne_true]
  have outcome := hbpAdmitted_cases dmr cfg head draw clock shared
    { slot with inCall.lastPkt := clock 0, lock := lock }
  generalize hbpAdmitted dmr cfg head draw clock shared
    { slot with inCall.lastPkt := clock 0, lock := lock } = result at outcome
  cases outcome with
  | foreignTerm dropped =>
      have term := legacyHbpStreamDrop_isTerm dropped
      exact absurd ((HbpFrame.isTerm_of_isHead isHead).symm.trans term) Bool.false_ne_true
  | headMerged _ duplicate => exact absurd (fresh.symm.trans duplicate) Bool.false_ne_true
  | headOpened opened _ _ _ recorded =>
      rw [recorded]
      exact ⟨rfl, rfl, rfl, admits⟩
  | headStarted opened _ _ _ recorded =>
      have call : opened.2.HeadCall dmr cfg head := by
        rw [recorded]
        exact ⟨rfl, rfl, rfl, admits⟩
      apply call.continues (emitHbpIpscStart_continues ..)
      rw [(emitHbpIpscStart_lock ..)]
      exact call.lock
  | endedSilent term | ended term =>
      exact absurd ((HbpFrame.isTerm_of_isHead isHead).symm.trans term) Bool.false_ne_true
  | voiceIgnored notHead | voiceContinued notHead | voiceOpened _ notHead =>
      exact absurd (notHead.symm.trans isHead) Bool.false_ne_true

/-- A frame of the call is let in. -/
theorem Slot.HeadCall.letIn (call : slot.HeadCall dmr cfg head) (follows : frame.Follows head) :
    ∃ lock, lock.Admits cfg head.stream head.dstGroup ∧
      slotStep dmr cfg ts shared slot (.hbpFrame frame draw clock) =
        hbpAdmitted dmr cfg frame draw clock shared
          { slot with inCall.lastPkt := clock 0, lock := lock } := by
  have before : ({ slot with inCall.lastPkt := clock 0 } : Slot).lock.Admits cfg frame.stream
      frame.dstGroup := by
    rw [follows.stream, follows.dstGroup]
    exact call.lock
  obtain ⟨lock, decided, admits⟩ := before.letIn frame.srcSub frame.isTerm (clock 1)
  refine ⟨lock, ?_, ?_⟩
  · rwa [follows.stream, follows.dstGroup] at admits
  · have test : (hbpLockPacket frame clock).test cfg { slot with inCall.lastPkt := clock 0 } =
        (false, { slot with inCall.lastPkt := clock 0, lock := lock }) := decided
    have admitted := hbpFrameReceived_admitted dmr draw shared (congrArg Prod.fst test)
    rw [test] at admitted
    exact admitted

/-- A copy of the header changes only times and the lock, and generates nothing. -/
theorem Slot.HeadCall.copy (call : slot.HeadCall dmr cfg head) (isHead : head.isHead = true) :
    let result := slotStep dmr cfg ts shared slot (.hbpFrame head draw clock)
    result.1 = shared ∧ result.2.1.HeadCall dmr cfg head ∧
      result.2.1.inCall.untimed = slot.inCall.untimed ∧ result.2.2 = [] := by
  obtain ⟨lock, admits, received⟩ := call.letIn ts shared draw clock ⟨rfl, rfl⟩
  intro result
  have duplicate : duplicateHead head (clock 0)
      { slot with inCall.lastPkt := clock 0, lock := lock } = true := by
    simp [duplicateHead, call.lc, call.hbpStream]
  have merged : result = (shared, { slot with
      lock := lock
      inCall := { slot.inCall with
        lc := some (decodeHbpVoiceLc dmr head.payload)
        embLc := some (dmr.encodeEmblc (decodeHbpVoiceLc dmr head.payload))
        lastHead := clock 0, lastPkt := clock 0 } }, []) := by
    have kept : legacyHbpStreamDrop cfg head
        { slot with inCall.lastPkt := clock 0, lock := lock } = false := by
      rw [Bool.eq_false_iff, ne_eq, legacyHbpStreamDrop_iff]
      exact fun dropped => dropped.2.2.2.1 call.hbpStream
    change slotStep dmr cfg ts shared slot (.hbpFrame head draw clock) = _
    rw [received, hbpAdmitted, kept, if_neg Bool.false_ne_true, if_pos isHead, hbpHead_eq, duplicate,
      if_pos rfl]
  rw [merged]
  refine ⟨rfl, ⟨rfl, rfl, call.hbpStream, admits⟩, ?_, rfl⟩
  simp only [InCall.untimed, ← call.lc, ← call.embLc]

/-- A voice frame of the call continues it. -/
theorem Slot.HeadCall.voice (call : slot.HeadCall dmr cfg head) (follows : frame.Follows head)
    (notHead : frame.isHead = false) (notTerm : frame.isTerm = false) :
    ∃ admitted : Slot, admitted.inCall.untimed = slot.inCall.untimed ∧
      (continueVoice dmr cfg frame clock shared admitted).1.HeadCall dmr cfg head ∧
      slotStep dmr cfg ts shared slot (.hbpFrame frame draw clock) =
        (shared, continueVoice dmr cfg frame clock shared admitted) := by
  obtain ⟨lock, admits, received⟩ := call.letIn ts shared draw clock follows
  have admitted : ({ slot with inCall.lastPkt := clock 0, lock := lock } : Slot).HeadCall dmr cfg
      head := ⟨call.lc, call.embLc, call.hbpStream, admits⟩
  refine ⟨{ slot with inCall.lastPkt := clock 0, lock := lock }, rfl, ?_, ?_⟩
  · apply admitted.continues (continueVoice_continues ..)
    rw [continueVoice_lock]
    exact admitted.lock
  · have kept : legacyHbpStreamDrop cfg frame
        { slot with inCall.lastPkt := clock 0, lock := lock } = false := by
      rw [Bool.eq_false_iff, ne_eq, legacyHbpStreamDrop_iff]
      exact fun dropped => absurd (notTerm.symm.trans dropped.2.1) Bool.false_ne_true
    rw [received, hbpAdmitted, kept, notHead, notTerm, if_neg Bool.false_ne_true,
      if_neg Bool.false_ne_true, if_neg Bool.false_ne_true, hbpVoice_eq, if_neg (by simp [call.lc]),
      if_neg (by simp [call.lc])]

/-- The terminator of the call ends it with what its record says. -/
theorem Slot.HeadCall.term (call : slot.HeadCall dmr cfg head) (follows : frame.Follows head)
    (term : frame.isTerm = true) :
    ∃ admitted : Slot, admitted.inCall.untimed = slot.inCall.untimed ∧
      (slotStep dmr cfg ts shared slot (.hbpFrame frame draw clock)).2.2 =
        if slot.inCall.started then (sendHbpTerm dmr cfg frame clock shared admitted).2 else [] := by
  obtain ⟨lock, admits, received⟩ := call.letIn ts shared draw clock follows
  refine ⟨{ slot with inCall.lastPkt := clock 0, lock := lock }, rfl, ?_⟩
  have kept : legacyHbpStreamDrop cfg frame
      { slot with inCall.lastPkt := clock 0, lock := lock } = false := by
    rw [Bool.eq_false_iff, ne_eq, legacyHbpStreamDrop_iff, follows.stream]
    exact fun dropped => dropped.2.2.2.1 call.hbpStream
  have notHead : frame.isHead = false := by
    by_contra head
    rw [HbpFrame.isTerm_of_isHead (by simpa using head)] at term
    cases term
  rw [received, hbpAdmitted, kept, notHead, term, if_neg Bool.false_ne_true,
    if_neg Bool.false_ne_true, if_pos rfl]
  unfold hbpTerm sendHbpTerm frameLc
  cases slot.inCall.started with
  | true => rfl
  | false => rfl

/-- A drain leaves the call and its lock open. -/
theorem Slot.HeadCall.drain (call : slot.HeadCall dmr cfg head) :
    (drainHbpToIpscQueue cfg clock slot).1.HeadCall dmr cfg head ∧
      (drainHbpToIpscQueue cfg clock slot).1.inCall = slot.inCall ∧
      generatedEntries (drainHbpToIpscQueue cfg clock slot).2 = [] := by
  have outcome := drainHbpToIpscQueue_cases cfg clock slot
  obtain ⟨lockUntil, lock⟩ := outcome.lock
  refine ⟨⟨?_, ?_, ?_, ?_⟩, outcome.inCall, ?_⟩
  · rw [outcome.inCall]
    exact call.lc
  · rw [outcome.inCall]
    exact call.embLc
  · rw [outcome.inCall]
    exact call.hbpStream
  · intro enabled
    obtain ⟨unknown, group⟩ := call.lock enabled
    rw [lock]
    exact ⟨(CallLock.blocked_lockUntil ..).trans unknown, group⟩
  · exact List.map_eq_nil_iff.mp outcome.generated

end HeadCall

/-- The packets that a log passes to `_send_hbp_to_ipsc` on a timeslot, with their queue entries. -/
def entriesAt (ts : Timeslot) (log : List Output) : List QueueEntry :=
  generatedEntries (slotActions ts log)

theorem entriesAt_append (ts : Timeslot) (first second : List Output) :
    entriesAt ts (first ++ second) = entriesAt ts first ++ entriesAt ts second := by
  rw [entriesAt, slotActions_append, generatedEntries_append]
  rfl

/-- The second list has the voice frames of the first, at any times, and any number of copies of the
header at any places. The pacing queue is drained at any points of either. -/
inductive Padded (ts : Timeslot) (head : HbpFrame) : List Event → List Event → Prop
  | nil : Padded ts head [] []
  | voice (one two : Event) (frame : HbpFrame) (draw otherDraw : RtpDraw) (clock otherClock : Clock)
      (first : one.atSlot ts = some (.hbpFrame frame draw clock))
      (second : two.atSlot ts = some (.hbpFrame frame otherDraw otherClock))
      (notHead : frame.isHead = false) (notTerm : frame.isTerm = false) (follows : frame.Follows head)
      {plain padded : List Event} (rest : Padded ts head plain padded) :
      Padded ts head (one :: plain) (two :: padded)
  | copy (event : Event) (draw : RtpDraw) (clock : Clock)
      (repeats : event.atSlot ts = some (.hbpFrame head draw clock))
      {plain padded : List Event} (rest : Padded ts head plain padded) :
      Padded ts head plain (event :: padded)
  | drain (other : Timeslot) (clock : Clock) {plain padded : List Event}
      (rest : Padded ts head plain padded) : Padded ts head (.drain other clock :: plain) padded
  | paddedDrain (other : Timeslot) (clock : Clock) {plain padded : List Event}
      (rest : Padded ts head plain padded) : Padded ts head plain (.drain other clock :: padded)

/-- Two translators have the header's call open on the timeslot, with the same record. -/
structure Paired (dmr : DmrUtils) (cfg : Config) (ts : Timeslot) (head : HbpFrame)
    (one two : Translator) : Prop where
  shared : one.shared = two.shared
  first : (one.slot ts).HeadCall dmr cfg head
  second : (two.slot ts).HeadCall dmr cfg head
  same : (one.slot ts).inCall.untimed = (two.slot ts).inCall.untimed

/-- A step keeps the call of the header and generates nothing. -/
structure Quiet (dmr : DmrUtils) (cfg : Config) (ts : Timeslot) (head : HbpFrame) (tr : Translator)
    (event : Event) : Prop where
  shared : (Translator.step dmr cfg tr event).1.shared = tr.shared
  call : ((Translator.step dmr cfg tr event).1.slot ts).HeadCall dmr cfg head
  same : ((Translator.step dmr cfg tr event).1.slot ts).inCall.untimed =
    (tr.slot ts).inCall.untimed
  silent : entriesAt ts (Translator.step dmr cfg tr event).2 = []

variable {dmr : DmrUtils} {cfg : Config} {ts : Timeslot} {head : HbpFrame}

/-- A copy of the header is quiet. -/
theorem Slot.HeadCall.copy_quiet {tr : Translator} (call : (tr.slot ts).HeadCall dmr cfg head)
    (isHead : head.isHead = true) {event : Event} {draw : RtpDraw} {clock : Clock}
    (repeats : event.atSlot ts = some (.hbpFrame head draw clock)) :
    Quiet dmr cfg ts head tr event := by
  obtain ⟨shared, stays, same, silent⟩ := call.copy ts tr.shared draw clock isHead
  obtain ⟨state, actions⟩ := Translator.step_seen dmr cfg tr repeats
  constructor
  · rw [Translator.step_seen_shared dmr cfg tr repeats, shared]
  · rwa [state]
  · rwa [state]
  · rw [entriesAt, actions, silent]
    rfl

/-- A drain is quiet. -/
theorem Slot.HeadCall.drain_quiet {tr : Translator} (call : (tr.slot ts).HeadCall dmr cfg head)
    (other : Timeslot) (clock : Clock) : Quiet dmr cfg ts head tr (.drain other clock) := by
  by_cases here : other = ts
  · subst here
    have seen : (Event.drain other clock).atSlot other = some (.drain clock) := by simp [Event.atSlot]
    obtain ⟨stays, same, silent⟩ := call.drain clock
    obtain ⟨state, actions⟩ := Translator.step_seen dmr cfg tr seen
    constructor
    · rfl
    · rwa [state]
    · rw [state]
      exact congrArg InCall.untimed same
    · rw [entriesAt, actions]
      exact silent
  · have unseen : (Event.drain other clock).atSlot ts = none := by simp [Event.atSlot, here]
    obtain ⟨state, actions⟩ := Translator.step_unseen dmr cfg tr unseen
    constructor
    · rfl
    · rwa [state]
    · rw [state]
    · rw [entriesAt, actions]
      rfl

/-- A voice frame of the call keeps two translators paired and makes both generate the same. -/
theorem Paired.voice {one two : Translator} (paired : Paired dmr cfg ts head one two)
    {event other : Event} {frame : HbpFrame} {draw otherDraw : RtpDraw} {clock otherClock : Clock}
    (first : event.atSlot ts = some (.hbpFrame frame draw clock))
    (second : other.atSlot ts = some (.hbpFrame frame otherDraw otherClock))
    (notHead : frame.isHead = false) (notTerm : frame.isTerm = false)
    (follows : frame.Follows head) :
    Paired dmr cfg ts head (Translator.step dmr cfg one event).1
        (Translator.step dmr cfg two other).1 ∧
      entriesAt ts (Translator.step dmr cfg one event).2 =
        entriesAt ts (Translator.step dmr cfg two other).2 := by
  obtain ⟨left, leftSame, leftCall, leftStep⟩ :=
    paired.first.voice ts one.shared draw clock follows notHead notTerm
  obtain ⟨right, rightSame, rightCall, rightStep⟩ :=
    paired.second.voice ts two.shared otherDraw otherClock follows notHead notTerm
  obtain ⟨leftState, leftActions⟩ := Translator.step_seen dmr cfg one first
  obtain ⟨rightState, rightActions⟩ := Translator.step_seen dmr cfg two second
  have same : left.inCall.untimed = right.inCall.untimed := by
    rw [leftSame, rightSame, paired.same]
  have run := continueVoice_sameCallRun dmr cfg two.shared frame clock otherClock same
  rw [paired.shared] at leftCall leftStep leftState leftActions
  constructor
  · constructor
    · rw [Translator.step_seen_shared dmr cfg one first,
        Translator.step_seen_shared dmr cfg two second, paired.shared, leftStep, rightStep]
    · rwa [leftState, leftStep]
    · rwa [rightState, rightStep]
    · rw [leftState, leftStep, rightState, rightStep]
      exact run.inCall
  · rw [entriesAt, entriesAt, leftActions, leftStep, rightActions, rightStep]
    exact run.entries

/-- Padding keeps two translators paired and generates the same packets. -/
theorem Paired.run (isHead : head.isHead = true) {plain padded : List Event}
    (inserted : Padded ts head plain padded) {one two : Translator}
    (paired : Paired dmr cfg ts head one two) :
    Paired dmr cfg ts head ((translator dmr cfg).run one plain).1
        ((translator dmr cfg).run two padded).1 ∧
      entriesAt ts ((translator dmr cfg).run one plain).2 =
        entriesAt ts ((translator dmr cfg).run two padded).2 := by
  induction inserted generalizing one two with
  | nil => exact ⟨paired, rfl⟩
  | voice event other frame draw otherDraw clock otherClock first second notHead notTerm follows rest
      ih =>
      obtain ⟨next, now⟩ := paired.voice first second notHead notTerm follows
      obtain ⟨stays, later⟩ := ih next
      refine ⟨stays, ?_⟩
      rw [Mealy.run_cons, Mealy.run_cons, entriesAt_append, entriesAt_append]
      exact congrArg₂ (· ++ ·) now later
  | copy event draw clock repeats rest ih =>
      have quiet := paired.second.copy_quiet isHead repeats
      obtain ⟨stays, later⟩ := ih ⟨paired.shared.trans quiet.shared.symm, paired.first, quiet.call,
        paired.same.trans quiet.same.symm⟩
      refine ⟨stays, ?_⟩
      rw [Mealy.run_cons _ two, entriesAt_append]
      exact later.trans (congrArg (· ++ _) quiet.silent).symm
  | drain other clock rest ih =>
      have quiet := paired.first.drain_quiet other clock
      obtain ⟨stays, later⟩ := ih ⟨quiet.shared.trans paired.shared, quiet.call, paired.second,
        quiet.same.trans paired.same⟩
      refine ⟨stays, ?_⟩
      rw [Mealy.run_cons _ one, entriesAt_append]
      exact (congrArg (· ++ _) quiet.silent).trans later
  | paddedDrain other clock rest ih =>
      have quiet := paired.second.drain_quiet other clock
      obtain ⟨stays, later⟩ := ih ⟨paired.shared.trans quiet.shared.symm, paired.first, quiet.call,
        paired.same.trans quiet.same.symm⟩
      refine ⟨stays, ?_⟩
      rw [Mealy.run_cons _ two, entriesAt_append]
      exact later.trans (congrArg (· ++ _) quiet.silent).symm

/-- The terminator generates the same in paired translators. -/
theorem Paired.term {one two : Translator} (paired : Paired dmr cfg ts head one two)
    {event other : Event} {frame : HbpFrame} {draw otherDraw : RtpDraw} {clock otherClock : Clock}
    (first : event.atSlot ts = some (.hbpFrame frame draw clock))
    (second : other.atSlot ts = some (.hbpFrame frame otherDraw otherClock))
    (term : frame.isTerm = true) (follows : frame.Follows head) :
    entriesAt ts (Translator.step dmr cfg one event).2 =
      entriesAt ts (Translator.step dmr cfg two other).2 := by
  obtain ⟨left, leftSame, leftStep⟩ := paired.first.term ts one.shared draw clock follows term
  obtain ⟨right, rightSame, rightStep⟩ :=
    paired.second.term ts two.shared otherDraw otherClock follows term
  have same : left.inCall.untimed = right.inCall.untimed := by
    rw [leftSame, rightSame, paired.same]
  have started := InCall.read_untimed paired.same InCall.started fun _ => rfl
  rw [entriesAt, entriesAt, (Translator.step_seen dmr cfg one first).2,
    (Translator.step_seen dmr cfg two second).2, leftStep, rightStep, started, paired.shared]
  split
  case isTrue => exact (sendHbpTerm_sameCallRun dmr cfg two.shared frame clock otherClock same).entries
  case isFalse => rfl

/-- A header opens a call, and voice frames of the call and its terminator follow. Copies of the
header at any places before the terminator leave the generated packets as they are. -/
theorem duplicate_heads_idempotent (dmr : DmrUtils) (cfg : Config) (ts : Timeslot) (tr : Translator)
    {first : Event} {head : HbpFrame} {draw : RtpDraw} {clock : Clock}
    (arrives : first.atSlot ts = some (.hbpFrame head draw clock)) (isHead : head.isHead = true)
    (opens : (SlotEvent.hbpFrame head draw clock).Opens cfg (tr.slot ts))
    {plain padded : List Event} (inserted : Padded ts head plain padded)
    {term otherTerm : Event} {last : HbpFrame} {lastDraw otherDraw : RtpDraw}
    {lastClock otherClock : Clock}
    (ends : term.atSlot ts = some (.hbpFrame last lastDraw lastClock))
    (alsoEnds : otherTerm.atSlot ts = some (.hbpFrame last otherDraw otherClock))
    (isTerm : last.isTerm = true) (follows : last.Follows head) :
    entriesAt ts ((translator dmr cfg).run tr (first :: (plain ++ [term]))).2 =
      entriesAt ts ((translator dmr cfg).run tr (first :: (padded ++ [otherTerm]))).2 := by
  have call : ((Translator.step dmr cfg tr first).1.slot ts).HeadCall dmr cfg head := by
    rw [(Translator.step_seen dmr cfg tr arrives).1]
    exact Slot.headCall_opened ts tr.shared draw clock isHead opens
  obtain ⟨paired, voice⟩ := Paired.run isHead inserted ⟨rfl, call, call, rfl⟩
  have terms := paired.term ends alsoEnds isTerm follows
  simp only [Mealy.run_cons, Mealy.run_append, Mealy.run_nil, entriesAt_append]
  change _ ++ (entriesAt ts ((translator dmr cfg).run (Translator.step dmr cfg tr first).1 plain).2 ++
    (entriesAt ts (Translator.step dmr cfg _ term).2 ++ _)) = _
  rw [voice]
  exact congrArg (fun last => _ ++ (_ ++ (last ++ _))) terms

/-- The header of stream 1 again. -/
def headCopy (now : Time) : Event :=
  .hbpVoice true (masterHead dmrCodec [1, 1, 1, 1] [0, 0, 7] [0, 0, 2]) rtpDraw fun _ => now

/-- A voice frame of stream 1. -/
def parrotVoice (now : Time) : Event :=
  .hbpVoice true (masterVoice dmrCodec [1, 1, 1, 1] [0, 0, 7] [0, 0, 2] hbpfFrametypeVoice) rtpDraw
    fun _ => now

/-- Three copies of the header, two of them late, leave a call's six packets as they are. -/
theorem duplicate_heads_idempotent_parrot :
    let plain := [parrotVoice 100, parrotVoice 101]
    let padded := [headCopy 100, parrotVoice 100, .drain .ts1 fun _ => 100, headCopy 103, parrotVoice 104,
      headCopy 120]
    let run := fun events => entriesAt .ts1 ((translator dmrCodec {}).run Translator.initial
      (headCopy 100 :: (events ++ [masterTerminator]))).2
    (run plain).length = 6 ∧ run plain = run padded := by
  intro plain padded run
  refine ⟨by decide +kernel, ?_⟩
  have heads : ∃ head : HbpFrame,
      (∀ now, (headCopy now).atSlot .ts1 = some (.hbpFrame head rtpDraw fun _ => now)) ∧
      (SlotEvent.hbpFrame head rtpDraw fun _ => 100).Opens {} (Translator.initial.slot .ts1) ∧
      head.isHead = true ∧ head.stream = [1, 1, 1, 1] ∧ head.dstGroup = [0, 0, 2] :=
    ⟨_, fun _ => rfl, ⟨rfl, .inl ⟨by decide +kernel, by decide +kernel⟩⟩, by decide +kernel,
      by decide +kernel, by decide +kernel⟩
  have voices : ∃ frame : HbpFrame,
      (∀ now, (parrotVoice now).atSlot .ts1 = some (.hbpFrame frame rtpDraw fun _ => now)) ∧
      frame.isHead = false ∧ frame.isTerm = false ∧ frame.stream = [1, 1, 1, 1] ∧
      frame.dstGroup = [0, 0, 2] :=
    ⟨_, fun _ => rfl, by decide +kernel, by decide +kernel, by decide +kernel, by decide +kernel⟩
  have ends : ∃ last : HbpFrame,
      masterTerminator.atSlot .ts1 = some (.hbpFrame last rtpDraw fun _ => 100) ∧
      last.isTerm = true ∧ last.stream = [1, 1, 1, 1] ∧ last.dstGroup = [0, 0, 2] :=
    ⟨_, rfl, by decide +kernel, by decide +kernel, by decide +kernel⟩
  obtain ⟨head, arrives, opens, isHead, stream, group⟩ := heads
  obtain ⟨voice, continues, notHead, notTerm, voiceStream, voiceGroup⟩ := voices
  obtain ⟨last, ends, isTerm, lastStream, lastGroup⟩ := ends
  have follows : voice.Follows head :=
    ⟨voiceStream.trans stream.symm, voiceGroup.trans group.symm⟩
  have inserted : Padded .ts1 head plain padded := by
    apply Padded.copy _ _ _ (arrives 100)
    apply Padded.voice _ _ _ _ _ _ _ (continues 100) (continues 100) notHead notTerm follows
    apply Padded.paddedDrain
    apply Padded.copy _ _ _ (arrives 103)
    apply Padded.voice _ _ _ _ _ _ _ (continues 101) (continues 104) notHead notTerm follows
    apply Padded.copy _ _ _ (arrives 120)
    exact Padded.nil
  exact duplicate_heads_idempotent dmrCodec {} .ts1 Translator.initial (arrives 100) isHead opens
    inserted ends ends isTerm ⟨lastStream.trans stream.symm, lastGroup.trans group.symm⟩

end Ipsc2Hbp
