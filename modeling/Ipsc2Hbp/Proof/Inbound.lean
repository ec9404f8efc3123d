import Ipsc2Hbp.Construction.Inbound
import Ipsc2Hbp.Proof.Pacing

namespace Ipsc2Hbp
open BigEndian

/-- The RTP counters after one packet. -/
def InCall.advance (inCall : InCall) : InCall :=
  { inCall with rtpSeq := inCall.rtpSeq + 1, rtpTs := inCall.rtpTs + 480 }

/-- The packet that the call's counters give to a payload. -/
def callPacket (cfg : Config) (shared : Shared) (frame : HbpFrame) (callInfo rtpPt : UInt8)
    (gvPayload : Bytes) (inCall : InCall) : Bytes :=
  buildGv cfg shared frame.srcSub frame.dstGroup callInfo
    (rtpHeader rtpPt inCall.rtpSeq inCall.rtpTs) gvPayload inCall.streamId

/-- The queue entry of that packet. -/
def callEntry (cfg : Config) (shared : Shared) (frame : HbpFrame) (callInfo rtpPt : UInt8)
    (gvPayload : Bytes) (burstType : UInt8) (inCall : InCall) : QueueEntry where
  packet := callPacket cfg shared frame callInfo rtpPt gvPayload inCall
  srcSub := frame.srcSub
  dstGroup := frame.dstGroup
  burstType := burstType
  call := inCall.serial

/-- A generated packet is passed on after the counters have moved. -/
theorem generatePacket_cases (cfg : Config) (shared : Shared) (frame : HbpFrame)
    (callInfo rtpPt : UInt8) (gvPayload : Bytes) (burstType : UInt8) (clock : Clock) (slot : Slot) :
    SendOutcome cfg (callEntry cfg shared frame callInfo rtpPt gvPayload burstType slot.inCall) clock
      { slot with inCall := slot.inCall.advance }
      (generatePacket cfg shared frame callInfo rtpPt gvPayload burstType clock slot).1
      (generatePacket cfg shared frame callInfo rtpPt gvPayload burstType clock slot).2 :=
  sendHbpToIpsc_cases cfg _ clock _

/-- An interrupting header forgets the old call before it records the new one. -/
theorem openHbpCall_reset (dmr : DmrUtils) (frame : HbpFrame) (lc : Bytes) (draw : RtpDraw)
    (now : Time) (shared : Shared) (slot : Slot) (interrupts : Bool) :
    openHbpCall dmr frame lc draw now shared
      (if interrupts then { slot with inCall := resetHbpToIpscState slot.inCall } else slot) =
      openHbpCall dmr frame lc draw now shared slot := by
  cases interrupts <;> rfl

/-- The header branch merges a repeated header or opens a call, which it may start at once. -/
theorem hbpHead_eq (dmr : DmrUtils) (cfg : Config) (frame : HbpFrame) (draw : RtpDraw)
    (clock : Clock) (shared : Shared) (slot : Slot) :
    hbpHead dmr cfg frame draw clock shared slot =
      if duplicateHead frame (clock 0) slot then
        (shared, { slot with
          inCall := { slot.inCall with
            lc := some (decodeHbpVoiceLc dmr frame.payload)
            embLc := some (dmr.encodeEmblc (decodeHbpVoiceLc dmr frame.payload))
            lastHead := clock 0 } }, [])
      else
        let opened := openHbpCall dmr frame (decodeHbpVoiceLc dmr frame.payload) draw (clock 0) shared
          slot
        if cfg.hbpStartOnVoice then (opened.1, opened.2, [])
        else (opened.1, emitHbpIpscStart dmr cfg opened.1 frame (fun reading => clock (2 + reading))
          opened.2) := by
  unfold hbpHead
  simp only [openHbpCall_reset]

/-- The rest of the voice branch once the call is open. -/
def continueVoice (dmr : DmrUtils) (cfg : Config) (frame : HbpFrame) (clock : Clock)
    (shared : Shared) (slot : Slot) : Slot × List Action :=
  let start := emitHbpIpscStart dmr cfg shared frame (fun reading => clock (2 + reading)) slot
  match hbpVoicePayload dmr frame start.1 with
  | .error err => (start.1, start.2 ++ [.raised err])
  | .ok gvPayload =>
      let sent := generatePacket cfg shared frame frame.callInfo 0x5d gvPayload frame.slotBurst
        (fun reading => clock (12 + reading)) start.1
      (sent.1, start.2 ++ sent.2)

/-- The LC that the header fields of a frame spell, as in a call that a voice burst opens late. -/
def frameLc (dmr : DmrUtils) (frame : HbpFrame) : Bytes :=
  dmr.lcOpt ++ frame.dstGroup ++ frame.srcSub

/-- The terminator packet of a call. -/
def sendHbpTerm (dmr : DmrUtils) (cfg : Config) (frame : HbpFrame) (clock : Clock)
    (shared : Shared) (slot : Slot) : Slot × List Action :=
  generatePacket cfg shared frame (frame.callInfo ||| endMsk) 0x5e
    ([voiceTerm] ++ buildIpscVoicePayload dmr (truthyOr slot.inCall.lc (frameLc dmr frame)) voiceTerm)
    voiceTerm (fun reading => clock (2 + reading)) slot

/-- A frame is not a header and a terminator at once. -/
theorem HbpFrame.isTerm_of_isHead {frame : HbpFrame} (head : frame.isHead = true) :
    frame.isTerm = false := by
  simp only [isHead, isTerm, Bool.and_eq_true, Bool.and_eq_false_iff, decide_eq_true_eq,
    decide_eq_false_iff_not] at head ⊢
  right
  rw [head.2]
  decide

/-- The legacy flow drops a terminator of another stream than that of the active call. -/
theorem legacyHbpStreamDrop_iff (cfg : Config) (frame : HbpFrame) (slot : Slot) :
    legacyHbpStreamDrop cfg frame slot = true ↔
      cfg.legacyFlow = true ∧ frame.isTerm = true ∧ slot.inCall.hbpStream.isSome = true ∧
        slot.inCall.hbpStream ≠ some frame.stream ∧ directionActive slot .hbp = true := by
  unfold legacyHbpStreamDrop directionActive
  cases flow : cfg.legacyFlow with
  | false => simp
  | true =>
      cases term : frame.isTerm with
      | false => simp
      | true =>
          have notHead : frame.isHead = false := by
            by_contra head
            rw [HbpFrame.isTerm_of_isHead (by simpa using head)] at term
            cases term
          simp [notHead, Option.isSome_iff_ne_none]
          tauto

/-- Only a terminator can be foreign. -/
theorem legacyHbpStreamDrop_isTerm {cfg : Config} {frame : HbpFrame} {slot : Slot}
    (dropped : legacyHbpStreamDrop cfg frame slot = true) : frame.isTerm = true :=
  ((legacyHbpStreamDrop_iff cfg frame slot).mp dropped).2.1

/-- The ways in which a frame acts on its timeslot after the call lock has let it in. -/
inductive HbpOutcome (dmr : DmrUtils) (cfg : Config) (frame : HbpFrame) (draw : RtpDraw)
    (clock : Clock) (shared : Shared) (slot : Slot) : Shared × Slot × List Action → Prop
  | foreignTerm (dropped : legacyHbpStreamDrop cfg frame slot = true) :
      HbpOutcome dmr cfg frame draw clock shared slot (shared, slot, [])
  | headMerged (head : frame.isHead = true) (duplicate : duplicateHead frame (clock 0) slot = true) :
      HbpOutcome dmr cfg frame draw clock shared slot
        (shared, { slot with
          inCall := { slot.inCall with
            lc := some (decodeHbpVoiceLc dmr frame.payload)
            embLc := some (dmr.encodeEmblc (decodeHbpVoiceLc dmr frame.payload))
            lastHead := clock 0 } }, [])
  | headOpened (opened : Shared × Slot) (head : frame.isHead = true)
      (fresh : duplicateHead frame (clock 0) slot = false) (waits : cfg.hbpStartOnVoice = true)
      (recorded : opened = openHbpCall dmr frame (decodeHbpVoiceLc dmr frame.payload) draw (clock 0)
        shared slot) :
      HbpOutcome dmr cfg frame draw clock shared slot (opened.1, opened.2, [])
  | headStarted (opened : Shared × Slot) (head : frame.isHead = true)
      (fresh : duplicateHead frame (clock 0) slot = false) (atOnce : cfg.hbpStartOnVoice = false)
      (recorded : opened = openHbpCall dmr frame (decodeHbpVoiceLc dmr frame.payload) draw (clock 0)
        shared slot) :
      HbpOutcome dmr cfg frame draw clock shared slot
        (opened.1, emitHbpIpscStart dmr cfg opened.1 frame (fun reading => clock (2 + reading))
          opened.2)
  | endedSilent (term : frame.isTerm = true) (unstarted : slot.inCall.started = false) :
      HbpOutcome dmr cfg frame draw clock shared slot (shared, endHbpCall cfg (clock 2) slot, [])
  | ended (term : frame.isTerm = true) (started : slot.inCall.started = true) :
      HbpOutcome dmr cfg frame draw clock shared slot
        (shared, endHbpCall cfg (clock 4) (sendHbpTerm dmr cfg frame clock shared slot).1,
          (sendHbpTerm dmr cfg frame clock shared slot).2)
  | voiceIgnored (notHead : frame.isHead = false) (notTerm : frame.isTerm = false)
      (closed : slot.inCall.lc = none) (legacy : cfg.legacyFlow = true) :
      HbpOutcome dmr cfg frame draw clock shared slot (shared, slot, [])
  | voiceContinued (notHead : frame.isHead = false) (notTerm : frame.isTerm = false)
      (opened : slot.inCall.lc.isSome = true) :
      HbpOutcome dmr cfg frame draw clock shared slot
        (shared, continueVoice dmr cfg frame clock shared slot)
  | voiceOpened (opened : Shared × Slot) (notHead : frame.isHead = false)
      (notTerm : frame.isTerm = false) (closed : slot.inCall.lc = none)
      (flow : cfg.legacyFlow = false)
      (recorded : opened = openHbpCall dmr frame (frameLc dmr frame) draw (clock 0) shared slot) :
      HbpOutcome dmr cfg frame draw clock shared slot
        (opened.1, continueVoice dmr cfg frame clock opened.1 opened.2)

/-- The branches of `hbp_voice_received` after the call lock. -/
def hbpAdmitted (dmr : DmrUtils) (cfg : Config) (frame : HbpFrame) (draw : RtpDraw)
    (clock : Clock) (shared : Shared) (slot : Slot) : Shared × Slot × List Action :=
  if legacyHbpStreamDrop cfg frame slot then (shared, slot, [])
  else if frame.isHead then hbpHead dmr cfg frame draw clock shared slot
  else if frame.isTerm then
    let ended := hbpTerm dmr cfg frame clock shared slot
    (shared, ended.1, ended.2)
  else hbpVoice dmr cfg frame draw clock shared slot

/-- The header branch merges the header or opens a call. -/
theorem hbpHead_cases (dmr : DmrUtils) (cfg : Config) (frame : HbpFrame) (draw : RtpDraw)
    (clock : Clock) (shared : Shared) (slot : Slot) (head : frame.isHead = true) :
    HbpOutcome dmr cfg frame draw clock shared slot
      (hbpHead dmr cfg frame draw clock shared slot) := by
  rw [hbpHead_eq]
  cases duplicate : duplicateHead frame (clock 0) slot with
  | true => exact .headMerged head duplicate
  | false =>
      simp only [Bool.false_eq_true, if_false]
      cases waits : cfg.hbpStartOnVoice with
      | true => exact .headOpened _ head duplicate waits rfl
      | false => exact .headStarted _ head duplicate waits rfl

/-- The voice branch opens a call late if none is open and then continues it. -/
theorem hbpVoice_eq (dmr : DmrUtils) (cfg : Config) (frame : HbpFrame) (draw : RtpDraw)
    (clock : Clock) (shared : Shared) (slot : Slot) :
    hbpVoice dmr cfg frame draw clock shared slot =
      if slot.inCall.lc.isNone && cfg.legacyFlow then (shared, slot, [])
      else
        let opened := if slot.inCall.lc.isNone then
          openHbpCall dmr frame (frameLc dmr frame) draw (clock 0) shared slot else (shared, slot)
        (opened.1, continueVoice dmr cfg frame clock opened.1 opened.2) := by
  unfold hbpVoice continueVoice frameLc
  split
  case isTrue => rfl
  case isFalse =>
    simp only
    generalize hbpVoicePayload dmr frame _ = built
    cases built <;> rfl

/-- A voice frame continues an open call or opens one late. -/
theorem hbpVoice_cases (dmr : DmrUtils) (cfg : Config) (frame : HbpFrame) (draw : RtpDraw)
    (clock : Clock) (shared : Shared) (slot : Slot) (notHead : frame.isHead = false)
    (notTerm : frame.isTerm = false) :
    HbpOutcome dmr cfg frame draw clock shared slot
      (hbpVoice dmr cfg frame draw clock shared slot) := by
  rw [hbpVoice_eq]
  by_cases closed : slot.inCall.lc = none
  · cases flow : cfg.legacyFlow with
    | true =>
        rw [if_pos (by simp [closed])]
        exact .voiceIgnored notHead notTerm closed flow
    | false =>
        rw [if_neg (by simp), if_pos (by simp [closed])]
        exact .voiceOpened _ notHead notTerm closed flow rfl
  · rw [if_neg (by simp [closed]), if_neg (by simpa using closed)]
    exact .voiceContinued notHead notTerm (Option.isSome_iff_ne_none.mpr closed)

/-- A terminator ends a started call with a packet and any other call silently. -/
theorem hbpTerm_cases (dmr : DmrUtils) (cfg : Config) (frame : HbpFrame) (draw : RtpDraw)
    (clock : Clock) (shared : Shared) (slot : Slot) (term : frame.isTerm = true) :
    HbpOutcome dmr cfg frame draw clock shared slot
      (shared, hbpTerm dmr cfg frame clock shared slot) := by
  unfold hbpTerm
  cases started : slot.inCall.started with
  | true => exact .ended term started
  | false => exact .endedSilent term started

/-- A frame that the call lock lets in acts in one of these ways. -/
theorem hbpAdmitted_cases (dmr : DmrUtils) (cfg : Config) (frame : HbpFrame) (draw : RtpDraw)
    (clock : Clock) (shared : Shared) (slot : Slot) :
    HbpOutcome dmr cfg frame draw clock shared slot
      (hbpAdmitted dmr cfg frame draw clock shared slot) := by
  unfold hbpAdmitted
  cases dropped : legacyHbpStreamDrop cfg frame slot with
  | true => exact .foreignTerm dropped
  | false =>
      simp only [Bool.false_eq_true, if_false]
      cases head : frame.isHead with
      | true => exact hbpHead_cases dmr cfg frame draw clock shared slot head
      | false =>
          simp only [Bool.false_eq_true, if_false]
          cases term : frame.isTerm with
          | true => exact hbpTerm_cases dmr cfg frame draw clock shared slot term
          | false => exact hbpVoice_cases dmr cfg frame draw clock shared slot head term

/-- The lock is asked first; a frame that it lets in goes on to the branches. -/
theorem hbpFrameReceived_decided (dmr : DmrUtils) (cfg : Config) (frame : HbpFrame) (draw : RtpDraw)
    (clock : Clock) (shared : Shared) (slot : Slot) :
    ∃ blocked lock,
      callLockBlocks cfg { slot with inCall.lastPkt := clock 0 } (.hbp frame.stream) frame.srcSub
        frame.dstGroup frame.isTerm (clock 1) =
          (blocked, { slot with inCall.lastPkt := clock 0, lock := lock }) ∧
      LockVerdict cfg { slot with inCall.lastPkt := clock 0 } (.hbp frame.stream) frame.dstGroup
        (clock 1) blocked lock ∧
      hbpFrameReceived dmr cfg frame draw clock shared slot =
        if blocked then (shared, { slot with inCall.lastPkt := clock 0, lock := lock }, [])
        else hbpAdmitted dmr cfg frame draw clock shared
          { slot with inCall.lastPkt := clock 0, lock := lock } := by
  obtain ⟨blocked, lock, decided, verdict⟩ := callLockBlocks_verdict cfg
    { slot with inCall.lastPkt := clock 0 } (.hbp frame.stream) frame.srcSub frame.dstGroup
    frame.isTerm (clock 1)
  refine ⟨blocked, lock, decided, verdict, ?_⟩
  unfold hbpFrameReceived hbpAdmitted
  simp only [decided]

/-- A frame is dropped by the lock or acts under its verdict. -/
theorem hbpFrameReceived_cases (dmr : DmrUtils) (cfg : Config) (frame : HbpFrame) (draw : RtpDraw)
    (clock : Clock) (shared : Shared) (slot : Slot) :
    ∃ blocked lock,
      LockVerdict cfg { slot with inCall.lastPkt := clock 0 } (.hbp frame.stream) frame.dstGroup
        (clock 1) blocked lock ∧
      hbpFrameReceived dmr cfg frame draw clock shared slot =
        if blocked then (shared, { slot with inCall.lastPkt := clock 0, lock := lock }, [])
        else hbpAdmitted dmr cfg frame draw clock shared
          { slot with inCall.lastPkt := clock 0, lock := lock } := by
  obtain ⟨blocked, lock, -, verdict, received⟩ :=
    hbpFrameReceived_decided dmr cfg frame draw clock shared slot
  exact ⟨blocked, lock, verdict, received⟩

/-- With the documented widths every voice frame has a payload: the timeslot's burst type, two
length bytes, the 19 voice bytes and what its position adds. -/
theorem hbpVoicePayload_ok {dmr : DmrUtils} (documented : dmr.Documented) (frame : HbpFrame)
    (slot : Slot) : ∃ words mark rest, hbpVoicePayload dmr frame slot =
      .ok (frame.slotBurst :: words :: mark :: (extractAmbeFromDmrd dmr frame.payload ++ rest)) := by
  unfold hbpVoicePayload
  simp only
  split
  case isTrue => exact ⟨0x14, 0x40, [], by rw [List.append_nil]; rfl⟩
  case isFalse =>
    split
    case isTrue =>
      refine ⟨0x22, 0x16, embFragment slot 4 ++
        ((truthyOr slot.inCall.lc [0x00, 0x00, 0x00]).extract 0 3 ++
          (frame.dstGroup ++ (frame.srcSub ++ [0x14]))), ?_⟩
      simp only [List.append_assoc, List.cons_append, List.nil_append]
    case isFalse =>
      split
      case isTrue =>
        refine ⟨0x19, 0x06, [0x00, 0x00, 0x00, 0x00, 0x10], ?_⟩
        simp only [List.cons_append, List.nil_append]
      case isFalse =>
        have eight : ((dmr.emb (embBurst (max frame.dtype.toNat 1))).take 8).length = 8 := by
          rw [List.length_take, documented.emb_length]
          rfl
        have one := bitsToBytes_length _ (by rw [eight])
        rw [eight] at one
        split
        case h_1 missing =>
          rw [List.getElem?_eq_none_iff, one] at missing
          omega
        case h_2 embHdr found =>
          refine ⟨0x19, 0x06, embFragment slot (max frame.dtype.toNat 1) ++ [embHdr &&& 0xFE], ?_⟩
          simp only [List.append_assoc, List.cons_append, List.nil_append]

/-- A rule for the header loop: what one header keeps, the whole loop keeps. -/
theorem emitHeads_invariant (dmr : DmrUtils) (cfg : Config) (shared : Shared) (frame : HbpFrame)
    (lc : Bytes) (clock : Clock) (relation : Nat → List Action → Slot → Prop)
    (kept : ∀ idx log slot, relation idx log slot →
      let sent := generatePacket cfg shared frame frame.callInfo (if idx = 0 then 0xdd else 0x5d)
        ([voiceHead] ++ buildIpscVoicePayload dmr lc voiceHead) voiceHead
        (fun reading => clock (2 * idx + reading)) slot
      relation (idx + 1) (log ++ sent.2) sent.1)
    (count idx : Nat) (log : List Action) (slot : Slot) (start : relation idx log slot) :
    relation (idx + count) (log ++ (emitHeads dmr cfg shared frame lc clock count idx slot).2)
      (emitHeads dmr cfg shared frame lc clock count idx slot).1 := by
  induction count generalizing idx log slot with
  | zero => simpa [emitHeads] using start
  | succ count ih =>
      have next := ih (idx + 1) _ _ (kept idx log slot start)
      simp only [emitHeads, ← List.append_assoc]
      rwa [Nat.add_right_comm idx 1 count] at next

/-- A step on the HBP side keeps the outbound call, the hold of the lock and the busy time. -/
structure HbpSide (after before : Slot) : Prop where
  outCall : after.outCall = before.outCall
  owner : after.lock.owner = before.lock.owner
  tg : after.lock.tg = before.lock.tg
  ipscBusyLast : after.ipscBusyLast = before.ipscBusyLast

theorem HbpSide.refl (slot : Slot) : HbpSide slot slot := ⟨rfl, rfl, rfl, rfl⟩

theorem HbpSide.trans {first second third : Slot} (one : HbpSide first second)
    (two : HbpSide second third) : HbpSide first third :=
  ⟨one.outCall.trans two.outCall, one.owner.trans two.owner, one.tg.trans two.tg,
    one.ipscBusyLast.trans two.ipscBusyLast⟩

theorem SendNow.side {cfg : Config} {entry : QueueEntry} {clock : Clock} {slot after : Slot}
    {actions : List Action} (sent : SendNow cfg entry clock slot after actions) :
    HbpSide after slot := by
  cases sent with
  | busy | sent => exact ⟨rfl, rfl, rfl, rfl⟩

theorem SendOutcome.side {cfg : Config} {entry : QueueEntry} {clock : Clock} {slot after : Slot}
    {actions : List Action} (outcome : SendOutcome cfg entry clock slot after actions) :
    HbpSide after slot := by
  cases outcome with
  | direct after actions unpaced sent => exact sent.side
  | full | queued => exact ⟨rfl, rfl, rfl, rfl⟩

theorem DrainOutcome.side {cfg : Config} {clock : Clock} {slot after : Slot} {actions : List Action}
    (outcome : DrainOutcome cfg clock slot after actions) : HbpSide after slot := by
  cases outcome with
  | empty => exact ⟨rfl, rfl, rfl, rfl⟩
  | taken entry rest sent actions handle nextAt lockUntil first passed =>
      exact ⟨passed.side.outCall, passed.side.owner, passed.side.tg, passed.side.ipscBusyLast⟩

theorem generatePacket_side (cfg : Config) (shared : Shared) (frame : HbpFrame)
    (callInfo rtpPt : UInt8) (gvPayload : Bytes) (burstType : UInt8) (clock : Clock) (slot : Slot) :
    HbpSide (generatePacket cfg shared frame callInfo rtpPt gvPayload burstType clock slot).1 slot :=
  HbpSide.trans (generatePacket_cases ..).side ⟨rfl, rfl, rfl, rfl⟩

theorem emitHbpIpscStart_side (dmr : DmrUtils) (cfg : Config) (shared : Shared) (frame : HbpFrame)
    (clock : Clock) (slot : Slot) :
    HbpSide (emitHbpIpscStart dmr cfg shared frame clock slot).1 slot := by
  unfold emitHbpIpscStart
  split
  case isTrue => exact .refl slot
  case isFalse =>
    have heads := emitHeads_invariant dmr cfg shared frame
      (truthyOr slot.inCall.lc (dmr.lcOpt ++ frame.dstGroup ++ frame.srcSub)) clock
      (fun _ _ after => HbpSide after slot)
      (fun _ _ _ before => (generatePacket_side ..).trans before) cfg.headerCount 0 [] slot (.refl slot)
    exact ⟨heads.outCall, heads.owner, heads.tg, heads.ipscBusyLast⟩

theorem continueVoice_side (dmr : DmrUtils) (cfg : Config) (frame : HbpFrame) (clock : Clock)
    (shared : Shared) (slot : Slot) :
    HbpSide (continueVoice dmr cfg frame clock shared slot).1 slot := by
  unfold continueVoice
  have start := emitHbpIpscStart_side dmr cfg shared frame (fun reading => clock (2 + reading)) slot
  simp only
  split
  case h_1 => exact start
  case h_2 gvPayload built =>
    exact (generatePacket_side cfg shared frame frame.callInfo 0x5d gvPayload frame.slotBurst
      (fun reading => clock (12 + reading)) _).trans start

theorem endHbpCall_side (cfg : Config) (now : Time) (slot : Slot) :
    HbpSide (endHbpCall cfg now slot) slot :=
  ⟨rfl, releaseCallLock_owner .., releaseCallLock_tg .., rfl⟩

theorem sendHbpTerm_side (dmr : DmrUtils) (cfg : Config) (frame : HbpFrame) (clock : Clock)
    (shared : Shared) (slot : Slot) :
    HbpSide (sendHbpTerm dmr cfg frame clock shared slot).1 slot := by
  unfold sendHbpTerm
  exact generatePacket_side ..

theorem HbpOutcome.side {dmr : DmrUtils} {cfg : Config} {frame : HbpFrame} {draw : RtpDraw}
    {clock : Clock} {shared : Shared} {slot : Slot} {result : Shared × Slot × List Action}
    (outcome : HbpOutcome dmr cfg frame draw clock shared slot result) : HbpSide result.2.1 slot := by
  cases outcome with
  | foreignTerm | headMerged | voiceIgnored => exact ⟨rfl, rfl, rfl, rfl⟩
  | headOpened opened head fresh waits recorded =>
      subst recorded
      exact ⟨rfl, rfl, rfl, rfl⟩
  | headStarted opened head fresh atOnce recorded =>
      subst recorded
      exact (emitHbpIpscStart_side ..).trans ⟨rfl, rfl, rfl, rfl⟩
  | endedSilent => exact endHbpCall_side ..
  | ended => exact (endHbpCall_side ..).trans (sendHbpTerm_side ..)
  | voiceContinued => exact continueVoice_side ..
  | voiceOpened opened notHead notTerm closed flow recorded =>
      subst recorded
      exact (continueVoice_side ..).trans ⟨rfl, rfl, rfl, rfl⟩

/-- The call goes on: only its counters and the started flag move. -/
def InCall.Continues (after before : InCall) : Prop :=
  ∃ rtpSeq rtpTs started,
    after = { before with rtpSeq := rtpSeq, rtpTs := rtpTs, started := started }

theorem InCall.Continues.refl (inCall : InCall) : inCall.Continues inCall := ⟨_, _, _, rfl⟩

theorem InCall.Continues.trans {first second third : InCall} (one : first.Continues second)
    (two : second.Continues third) : first.Continues third := by
  obtain ⟨rtpSeq, rtpTs, started, rfl⟩ := one
  obtain ⟨_, _, _, rfl⟩ := two
  exact ⟨rtpSeq, rtpTs, started, rfl⟩

theorem InCall.Continues.serial {after before : InCall} (continues : after.Continues before) :
    after.serial = before.serial := by
  obtain ⟨_, _, _, rfl⟩ := continues
  rfl

theorem InCall.Continues.streamId {after before : InCall} (continues : after.Continues before) :
    after.streamId = before.streamId := by
  obtain ⟨_, _, _, rfl⟩ := continues
  rfl

theorem InCall.Continues.lc_isSome {after before : InCall} (continues : after.Continues before) :
    after.lc.isSome = before.lc.isSome := by
  obtain ⟨_, _, _, rfl⟩ := continues
  rfl

theorem InCall.advance_continues (inCall : InCall) : inCall.advance.Continues inCall :=
  ⟨_, _, inCall.started, rfl⟩

theorem SendNow.inCall {cfg : Config} {entry : QueueEntry} {clock : Clock} {slot after : Slot}
    {actions : List Action} (sent : SendNow cfg entry clock slot after actions) :
    after.inCall = slot.inCall := by
  cases sent with
  | busy | sent => rfl

theorem SendOutcome.inCall {cfg : Config} {entry : QueueEntry} {clock : Clock} {slot after : Slot}
    {actions : List Action} (outcome : SendOutcome cfg entry clock slot after actions) :
    after.inCall = slot.inCall := by
  cases outcome with
  | direct after actions unpaced sent => exact sent.inCall
  | full | queued => rfl

theorem DrainOutcome.inCall {cfg : Config} {clock : Clock} {slot after : Slot}
    {actions : List Action} (outcome : DrainOutcome cfg clock slot after actions) :
    after.inCall = slot.inCall := by
  cases outcome with
  | empty => rfl
  | taken entry rest sent actions handle nextAt lockUntil first passed => exact passed.inCall

/-- A generated packet moves the counters of the call once. -/
theorem generatePacket_inCall (cfg : Config) (shared : Shared) (frame : HbpFrame)
    (callInfo rtpPt : UInt8) (gvPayload : Bytes) (burstType : UInt8) (clock : Clock) (slot : Slot) :
    (generatePacket cfg shared frame callInfo rtpPt gvPayload burstType clock slot).1.inCall =
      slot.inCall.advance :=
  (generatePacket_cases ..).inCall

theorem emitHbpIpscStart_continues (dmr : DmrUtils) (cfg : Config) (shared : Shared)
    (frame : HbpFrame) (clock : Clock) (slot : Slot) :
    (emitHbpIpscStart dmr cfg shared frame clock slot).1.inCall.Continues slot.inCall := by
  unfold emitHbpIpscStart
  split
  case isTrue => exact .refl _
  case isFalse =>
    have heads := emitHeads_invariant dmr cfg shared frame
      (truthyOr slot.inCall.lc (dmr.lcOpt ++ frame.dstGroup ++ frame.srcSub)) clock
      (fun _ _ after => after.inCall.Continues slot.inCall)
      (fun _ _ before continued => by
        simp only [generatePacket_inCall]
        exact before.inCall.advance_continues.trans continued)
      cfg.headerCount 0 [] slot (.refl _)
    obtain ⟨rtpSeq, rtpTs, started, same⟩ := heads
    simp only [same]
    exact ⟨rtpSeq, rtpTs, true, rfl⟩

/-- A voice burst keeps the call that it belongs to. -/
theorem continueVoice_continues (dmr : DmrUtils) (cfg : Config) (frame : HbpFrame) (clock : Clock)
    (shared : Shared) (slot : Slot) :
    (continueVoice dmr cfg frame clock shared slot).1.inCall.Continues slot.inCall := by
  have start := emitHbpIpscStart_continues dmr cfg shared frame (fun reading => clock (2 + reading))
    slot
  unfold continueVoice
  simp only
  split
  case h_1 => exact start
  case h_2 =>
    simp only [generatePacket_inCall]
    exact (InCall.advance_continues _).trans start

/-- An action of the HBP side opens no stream and sends no frame to the master. It raises only when
the DMR functions miss their documented widths. -/
def Action.FromHbp (dmr : DmrUtils) : Action → Prop
  | .generate _ | .queueFull _ | .slotBusy _ | .sendToPeer _ => True
  | .raised _ => ¬ dmr.Documented
  | .openStream .. | .sendDmrd _ => False

theorem SendNow.fromHbp {cfg : Config} {entry : QueueEntry} {clock : Clock} {slot after : Slot}
    {actions : List Action} (sent : SendNow cfg entry clock slot after actions) (dmr : DmrUtils) :
    ∀ action ∈ actions, action.FromHbp dmr := by
  cases sent with
  | busy | sent => simp [Action.FromHbp]

theorem SendOutcome.fromHbp {cfg : Config} {entry : QueueEntry} {clock : Clock} {slot after : Slot}
    {actions : List Action} (outcome : SendOutcome cfg entry clock slot after actions)
    (dmr : DmrUtils) : ∀ action ∈ actions, action.FromHbp dmr := by
  cases outcome with
  | direct after actions unpaced sent =>
      intro action member
      rcases List.mem_cons.mp member with rfl | later
      · trivial
      · exact sent.fromHbp dmr action later
  | full | queued => simp [Action.FromHbp]

theorem DrainOutcome.fromHbp {cfg : Config} {clock : Clock} {slot after : Slot}
    {actions : List Action} (outcome : DrainOutcome cfg clock slot after actions) (dmr : DmrUtils) :
    ∀ action ∈ actions, action.FromHbp dmr := by
  cases outcome with
  | empty => simp
  | taken entry rest sent actions handle nextAt lockUntil first passed => exact passed.fromHbp dmr

theorem emitHbpIpscStart_fromHbp (dmr : DmrUtils) (cfg : Config) (shared : Shared)
    (frame : HbpFrame) (clock : Clock) (slot : Slot) :
    ∀ action ∈ (emitHbpIpscStart dmr cfg shared frame clock slot).2, action.FromHbp dmr := by
  unfold emitHbpIpscStart
  split
  case isTrue => simp
  case isFalse =>
    have heads := emitHeads_invariant dmr cfg shared frame
      (truthyOr slot.inCall.lc (dmr.lcOpt ++ frame.dstGroup ++ frame.srcSub)) clock
      (fun _ actions _ => ∀ action ∈ actions, action.FromHbp dmr)
      (fun idx actions before all action member => by
        rcases List.mem_append.mp member with earlier | now
        · exact all action earlier
        · exact (generatePacket_cases ..).fromHbp dmr action now)
      cfg.headerCount 0 [] slot (by simp)
    rwa [List.nil_append] at heads

theorem continueVoice_fromHbp (dmr : DmrUtils) (cfg : Config) (frame : HbpFrame) (clock : Clock)
    (shared : Shared) (slot : Slot) :
    ∀ action ∈ (continueVoice dmr cfg frame clock shared slot).2, action.FromHbp dmr := by
  have start := emitHbpIpscStart_fromHbp dmr cfg shared frame (fun reading => clock (2 + reading)) slot
  unfold continueVoice
  simp only
  split
  case h_1 err failed =>
    intro action member
    rcases List.mem_append.mp member with earlier | now
    · exact start action earlier
    · rw [List.mem_singleton.mp now]
      intro documented
      obtain ⟨_, _, _, payload⟩ := hbpVoicePayload_ok documented frame
        (emitHbpIpscStart dmr cfg shared frame (fun reading => clock (2 + reading)) slot).1
      rw [payload] at failed
      cases failed
  case h_2 =>
    intro action member
    rcases List.mem_append.mp member with earlier | now
    · exact start action earlier
    · exact (generatePacket_cases ..).fromHbp dmr action now

theorem sendHbpTerm_fromHbp (dmr : DmrUtils) (cfg : Config) (frame : HbpFrame) (clock : Clock)
    (shared : Shared) (slot : Slot) :
    ∀ action ∈ (sendHbpTerm dmr cfg frame clock shared slot).2, action.FromHbp dmr := by
  unfold sendHbpTerm
  exact (generatePacket_cases ..).fromHbp dmr

theorem HbpOutcome.fromHbp {dmr : DmrUtils} {cfg : Config} {frame : HbpFrame} {draw : RtpDraw}
    {clock : Clock} {shared : Shared} {slot : Slot} {result : Shared × Slot × List Action}
    (outcome : HbpOutcome dmr cfg frame draw clock shared slot result) :
    ∀ action ∈ result.2.2, action.FromHbp dmr := by
  cases outcome with
  | foreignTerm | headMerged | headOpened | endedSilent | voiceIgnored => simp
  | headStarted opened =>
      exact emitHbpIpscStart_fromHbp dmr cfg opened.1 frame (fun reading => clock (2 + reading)) opened.2
  | ended => exact sendHbpTerm_fromHbp dmr cfg frame clock shared slot
  | voiceContinued => exact continueVoice_fromHbp dmr cfg frame clock shared slot
  | voiceOpened opened => exact continueVoice_fromHbp dmr cfg frame clock opened.1 opened.2

/-- A frame keeps the outbound call and sends nothing towards the master. -/
theorem hbpFrameReceived_outbound (dmr : DmrUtils) (cfg : Config) (frame : HbpFrame) (draw : RtpDraw)
    (clock : Clock) (shared : Shared) (slot : Slot) :
    let result := hbpFrameReceived dmr cfg frame draw clock shared slot
    result.2.1.outCall = slot.outCall ∧ ∀ action ∈ result.2.2, action.FromHbp dmr := by
  obtain ⟨blocked, lock, -, received⟩ := hbpFrameReceived_cases dmr cfg frame draw clock shared slot
  rw [received]
  cases blocked with
  | true => exact ⟨rfl, by simp⟩
  | false =>
      have outcome := hbpAdmitted_cases dmr cfg frame draw clock shared
        { slot with inCall.lastPkt := clock 0, lock := lock }
      exact ⟨outcome.side.outCall, outcome.fromHbp⟩

/-- A frame changes at most the call counter of the shared fields. -/
theorem HbpOutcome.shared {dmr : DmrUtils} {cfg : Config} {frame : HbpFrame} {draw : RtpDraw}
    {clock : Clock} {shared : Shared} {slot : Slot} {result : Shared × Slot × List Action}
    (outcome : HbpOutcome dmr cfg frame draw clock shared slot result) :
    ∃ counter, result.1 = { shared with inStreamCtr := counter } := by
  cases outcome with
  | headOpened opened head fresh waits recorded => exact ⟨_, by rw [recorded]; rfl⟩
  | headStarted opened head fresh atOnce recorded => exact ⟨_, by rw [recorded]; rfl⟩
  | voiceOpened opened notHead notTerm closed flow recorded => exact ⟨_, by rw [recorded]; rfl⟩
  | foreignTerm | headMerged | endedSilent | ended | voiceIgnored | voiceContinued =>
      exact ⟨shared.inStreamCtr, rfl⟩

/-- The lock and the branches together touch at most the call counter of the shared fields. -/
theorem hbpFrameReceived_shared (dmr : DmrUtils) (cfg : Config) (frame : HbpFrame) (draw : RtpDraw)
    (clock : Clock) (shared : Shared) (slot : Slot) :
    ∃ counter, (hbpFrameReceived dmr cfg frame draw clock shared slot).1 =
      { shared with inStreamCtr := counter } := by
  obtain ⟨blocked, lock, -, received⟩ := hbpFrameReceived_cases dmr cfg frame draw clock shared slot
  rw [received]
  cases blocked with
  | true => exact ⟨shared.inStreamCtr, rfl⟩
  | false => exact (hbpAdmitted_cases ..).shared

end Ipsc2Hbp
