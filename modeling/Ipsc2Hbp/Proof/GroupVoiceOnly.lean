import Ipsc2Hbp.Construction.DmrCodec
import Ipsc2Hbp.Construction.Packets
import Ipsc2Hbp.Proof.GeneratedCalls

namespace Ipsc2Hbp
open BigEndian

/-- A group call's header, terminator or voice: no private-call bit, no other data burst and no
unassigned frame type. -/
def HbpFrame.GroupVoice (frame : HbpFrame) : Prop :=
  frame.flags &&& hbpfTgidCallP = 0 ∧
    (frame.frameType = hbpfFrametypeDatasync → frame.dtype = hbpfSltVhead ∨ frame.dtype = hbpfSltVterm) ∧
    frame.frameType ≠ hbpfFrametypeMask

instance (frame : HbpFrame) : Decidable frame.GroupVoice :=
  inferInstanceAs (Decidable (_ ∧ (_ → _ ∨ _) ∧ _))

/-- A callback generates no packet and opens no HBP→IPSC call. -/
def Untranslated (before : Translator) (after : Translator × List Output) : Prop :=
  ∀ ts, generatedPackets (slotActions ts after.2) = [] ∧
    (after.1.slot ts).inCall.serial = (before.slot ts).inCall.serial

/-- The branches turn a frame away: a foreign terminator, a repeated header, the terminator of a call
that has not started, or voice of no call in the legacy flow. -/
def BranchRefuses (cfg : Config) (frame : HbpFrame) (now : Time) (slot : Slot) : Prop :=
  legacyHbpStreamDrop cfg frame slot = true ∨
    (frame.isHead = true ∧ duplicateHead frame now slot = true) ∨
    (frame.isTerm = true ∧ slot.inCall.started = false) ∨
    (frame.isHead = false ∧ frame.isTerm = false ∧ slot.inCall.lc = none ∧ cfg.legacyFlow = true)

instance (cfg : Config) (frame : HbpFrame) (now : Time) (slot : Slot) :
    Decidable (BranchRefuses cfg frame now slot) :=
  inferInstanceAs (Decidable (_ ∨ (_ ∧ _) ∨ (_ ∧ _) ∨ (_ ∧ _ ∧ _ ∧ _)))

/-- A frame is turned away without a peer, by the call lock or by its branch. -/
def Refused (cfg : Config) (registered : Bool) (frame : HbpFrame) (clock : Clock) (slot : Slot) : Prop :=
  registered = false ∨
    (callLockBlocks cfg { slot with inCall.lastPkt := clock 0 } (.hbp frame.stream) frame.srcSub
      frame.dstGroup frame.isTerm (clock 1)).1 = true ∨
    BranchRefuses cfg frame (clock 0) slot

instance (cfg : Config) (registered : Bool) (frame : HbpFrame) (clock : Clock) (slot : Slot) :
    Decidable (Refused cfg registered frame clock slot) :=
  inferInstanceAs (Decidable (_ ∨ _ ∨ _))

/-- A continued call generates a packet for the voice frame. -/
theorem continueVoice_generates {dmr : DmrUtils} (documented : dmr.Documented) (cfg : Config)
    (frame : HbpFrame) (clock : Clock) (shared : Shared) (slot : Slot) :
    generatedPackets (continueVoice dmr cfg frame clock shared slot).2 ≠ [] := by
  unfold continueVoice
  obtain ⟨_, _, _, built⟩ := hbpVoicePayload_ok documented frame
    (emitHbpIpscStart dmr cfg shared frame (fun reading => clock (2 + reading)) slot).1
  simp only [built, generatedPackets_append, generatePacket_generated]
  simp

/-- A header of its own is not turned away. -/
theorem not_branchRefuses_head {cfg : Config} {frame : HbpFrame} {now : Time} {slot : Slot}
    (head : frame.isHead = true) (fresh : duplicateHead frame now slot = false) :
    ¬ BranchRefuses cfg frame now slot := by
  have notTerm := HbpFrame.isTerm_of_isHead head
  rintro (dropped | ⟨-, duplicate⟩ | ⟨term, -⟩ | ⟨notHead, -⟩)
  · rw [legacyHbpStreamDrop_isTerm dropped] at notTerm
    cases notTerm
  · rw [fresh] at duplicate
    cases duplicate
  · rw [notTerm] at term
    cases term
  · rw [head] at notHead
    cases notHead

/-- Voice of an open call, or in the packet flow of any call, is not turned away. -/
theorem not_branchRefuses_voice {cfg : Config} {frame : HbpFrame} {now : Time} {slot : Slot}
    (notHead : frame.isHead = false) (notTerm : frame.isTerm = false)
    (enters : slot.inCall.lc = none → cfg.legacyFlow = false) : ¬ BranchRefuses cfg frame now slot := by
  rintro (dropped | ⟨head, -⟩ | ⟨term, -⟩ | ⟨-, -, closed, legacy⟩)
  · rw [legacyHbpStreamDrop_isTerm dropped] at notTerm
    cases notTerm
  · rw [notHead] at head
    cases head
  · rw [notTerm] at term
    cases term
  · rw [enters closed] at legacy
    cases legacy

/-- The branches leave a frame untranslated exactly when they turn it away. -/
theorem hbpAdmitted_untranslated_iff {dmr : DmrUtils} (documented : dmr.Documented) (cfg : Config)
    (frame : HbpFrame) (draw : RtpDraw) (clock : Clock) (shared : Shared) (slot : Slot) :
    let result := hbpAdmitted dmr cfg frame draw clock shared slot
    (generatedPackets result.2.2 = [] ∧ result.2.1.inCall.serial = slot.inCall.serial) ↔
      BranchRefuses cfg frame (clock 0) slot := by
  cases dropped : legacyHbpStreamDrop cfg frame slot with
  | true =>
      have same : hbpAdmitted dmr cfg frame draw clock shared slot = (shared, slot, []) := by
        rw [hbpAdmitted, if_pos dropped]
      rw [same]
      exact ⟨fun _ => .inl dropped, fun _ => ⟨rfl, rfl⟩⟩
  | false =>
      have outcome := hbpAdmitted_cases dmr cfg frame draw clock shared slot
      generalize hbpAdmitted dmr cfg frame draw clock shared slot = result at outcome
      cases outcome with
      | foreignTerm foreign =>
          rw [dropped] at foreign
          cases foreign
      | headMerged head duplicate =>
          exact ⟨fun _ => .inr (.inl ⟨head, duplicate⟩), fun _ => ⟨rfl, rfl⟩⟩
      | headOpened opened head fresh waits recorded =>
          subst recorded
          refine ⟨fun quiet => ?_, fun refuses => absurd refuses (not_branchRefuses_head head fresh)⟩
          exact absurd quiet.2 (Nat.succ_ne_self _)
      | headStarted opened head fresh atOnce recorded =>
          subst recorded
          refine ⟨fun quiet => ?_, fun refuses => absurd refuses (not_branchRefuses_head head fresh)⟩
          have same := (emitHbpIpscStart_continues dmr cfg _ frame _ _).serial.symm.trans quiet.2
          exact absurd same (Nat.succ_ne_self _)
      | endedSilent term unstarted =>
          exact ⟨fun _ => .inr (.inr (.inl ⟨term, unstarted⟩)), fun _ => ⟨rfl, rfl⟩⟩
      | ended term started =>
          refine ⟨fun quiet => ?_, fun refuses => ?_⟩
          · have sent : generatedPackets (sendHbpTerm dmr cfg frame clock shared slot).2 = _ :=
              generatePacket_generated ..
            have silent : generatedPackets (sendHbpTerm dmr cfg frame clock shared slot).2 = [] :=
              quiet.1
            rw [sent] at silent
            cases silent
          · rcases refuses with foreign | ⟨head, -⟩ | ⟨-, unstarted⟩ | ⟨-, notTerm, -⟩
            · rw [dropped] at foreign
              cases foreign
            · rw [HbpFrame.isTerm_of_isHead head] at term
              cases term
            · rw [started] at unstarted
              cases unstarted
            · rw [term] at notTerm
              cases notTerm
      | voiceIgnored notHead notTerm closed legacy =>
          exact ⟨fun _ => .inr (.inr (.inr ⟨notHead, notTerm, closed, legacy⟩)), fun _ => ⟨rfl, rfl⟩⟩
      | voiceContinued notHead notTerm opened =>
          refine ⟨fun quiet => (continueVoice_generates documented cfg frame clock _ _ quiet.1).elim,
            fun refuses => absurd refuses (not_branchRefuses_voice notHead notTerm fun closed => ?_)⟩
          rw [closed] at opened
          cases opened
      | voiceOpened opened notHead notTerm closed flow recorded =>
          exact ⟨fun quiet => (continueVoice_generates documented cfg frame clock _ _ quiet.1).elim,
            fun refuses => absurd refuses (not_branchRefuses_voice notHead notTerm fun _ => flow)⟩

/-- A handler on one timeslot leaves a frame untranslated when it does so on that timeslot. -/
theorem untranslated_onSlot_iff (tr : Translator) (ts : Timeslot)
    (handler : Shared → Slot → Shared × Slot × List Action) :
    Untranslated tr (tr.onSlot ts handler) ↔
      generatedPackets (handler tr.shared (tr.slot ts)).2.2 = [] ∧
        (handler tr.shared (tr.slot ts)).2.1.inCall.serial = (tr.slot ts).inCall.serial := by
  constructor
  · intro quiet
    have here := quiet ts
    have seen := tr.onSlot_at ts ts handler
    rw [if_pos rfl] at seen
    obtain ⟨state, actions⟩ := Prod.mk.inj seen
    rwa [state, actions] at here
  · intro quiet other
    have seen := tr.onSlot_at other ts handler
    by_cases here : ts = other
    · subst here
      rw [if_pos rfl] at seen
      obtain ⟨state, actions⟩ := Prod.mk.inj seen
      rw [state, actions]
      exact quiet
    · rw [if_neg here] at seen
      obtain ⟨state, actions⟩ := Prod.mk.inj seen
      rw [state, actions]
      exact ⟨rfl, rfl⟩

/-- A frame that is not group voice is left untranslated exactly when it is turned away like any
other frame. -/
theorem only_group_voice_iff {dmr : DmrUtils} (documented : dmr.Documented) (cfg : Config)
    (tr : Translator) (registered : Bool) (dmrd : Bytes) (draw : RtpDraw) (clock : Clock)
    (flags : UInt8) (long : dmrdLen ≤ dmrd.length) (here : dmrd[dmrdFlagsOff]? = some flags) :
    let frame := HbpFrame.parse dmrd flags
    (¬ frame.GroupVoice →
        Untranslated tr (Translator.step dmr cfg tr (.hbpVoice registered dmrd draw clock))) ↔
      (¬ frame.GroupVoice → Refused cfg registered frame clock (tr.slot frame.timeslot)) := by
  intro frame
  refine imp_congr_right fun _ => ?_
  rw [Translator.step, hbpVoiceReceived_eq]
  cases registered with
  | false => exact ⟨fun _ => .inl rfl, fun _ _ => ⟨rfl, rfl⟩⟩
  | true =>
      have accepted : acceptedFrame true dmrd = some frame := by
        simp [acceptedFrame, long, here, frame]
      simp only [accepted]
      rw [untranslated_onSlot_iff]
      obtain ⟨blocked, lock, decided, -, received⟩ := hbpFrameReceived_decided dmr cfg frame draw clock
        tr.shared (tr.slot frame.timeslot)
      rw [received, Refused, decided]
      cases blocked with
      | true => exact ⟨fun _ => .inr (.inl rfl), fun _ => ⟨rfl, rfl⟩⟩
      | false =>
          simp only [Bool.false_eq_true, if_false, false_or, Bool.true_eq_false]
          exact hbpAdmitted_untranslated_iff documented cfg frame draw clock tr.shared _

/-- A CSBK frame: its frame type is DATASYNC and its data type 3. -/
def csbkFrame : Bytes :=
  masterVoice dmrCodec [1, 1, 1, 1] [0, 0, 7] [0, 0, 1] (hbpfFrametypeDatasync ||| 0x03)

/-- The legacy flow turns a CSBK away when no call is open. -/
theorem only_group_voice_iff_legacy :
    ¬ (HbpFrame.parse csbkFrame 0x23).GroupVoice ∧
      Untranslated Translator.initial (Translator.step dmrCodec { compatPacketFlow := .legacyAmbe }
        Translator.initial (.hbpVoice true csbkFrame ⟨0, 0⟩ fun _ => 100)) := by
  have other : ¬ (HbpFrame.parse csbkFrame 0x23).GroupVoice := by decide +kernel
  have law := only_group_voice_iff dmrCodec_documented { compatPacketFlow := .legacyAmbe }
    Translator.initial true csbkFrame ⟨0, 0⟩ (fun _ => 100) 0x23 (by decide +kernel)
    (by decide +kernel)
  exact ⟨other, law.mpr (fun _ => by decide +kernel) other⟩

/-- With the defaults the same frame opens a call. -/
theorem csbk_translated :
    ¬ (HbpFrame.parse csbkFrame 0x23).GroupVoice ∧
      ¬ Untranslated Translator.initial (Translator.step dmrCodec {} Translator.initial
        (.hbpVoice true csbkFrame ⟨0, 0⟩ fun _ => 100)) := by
  refine ⟨by decide +kernel, fun quiet => ?_⟩
  have opened : ((Translator.step dmrCodec {} Translator.initial
      (.hbpVoice true csbkFrame ⟨0, 0⟩ fun _ => 100)).1.slot .ts1).inCall.serial = 1 := by
    decide +kernel
  have unopened := (quiet .ts1).2
  rw [opened] at unopened
  cases unopened

end Ipsc2Hbp
