import Ipsc2Hbp.Proof.CallLock

namespace Ipsc2Hbp
open BigEndian

/-- The LC that a packet's header fields spell. -/
def gvLc (dmr : DmrUtils) (data : Bytes) : Bytes := dmr.lcOpt ++ gvDstGroup data ++ gvSrcSub data

/-- The four ways in which the legacy stream test treats a packet. -/
inductive LegacyStream (cfg : Config) (ipscStream : Option UInt8) (burstType : UInt8) (now : Time)
    (slot : Slot) : Bool → Slot → Prop
  | kept (notHead : cfg.legacyFlow = true → ipscStream.isSome = true → burstType ≠ voiceHead) :
      LegacyStream cfg ipscStream burstType now slot false slot
  | stale (legacy : cfg.legacyFlow = true) (notHead : burstType ≠ voiceHead)
      (closed : slot.outCall.streamId = none) :
      LegacyStream cfg ipscStream burstType now slot true slot
  | recorded (streamByte : UInt8) (legacy : cfg.legacyFlow = true) (stream : ipscStream = some streamByte)
      (head : burstType = voiceHead)
      (same : slot.outCall.streamId.isSome = true → slot.outCall.ipscStreamByte = none ∨
        slot.outCall.ipscStreamByte = some streamByte) :
      LegacyStream cfg ipscStream burstType now slot false
        { slot with outCall.ipscStreamByte := some streamByte }
  | restarted (streamByte : UInt8) (legacy : cfg.legacyFlow = true)
      (stream : ipscStream = some streamByte) (head : burstType = voiceHead)
      (opened : slot.outCall.streamId.isSome = true)
      (changed : slot.outCall.ipscStreamByte ≠ some streamByte) :
      LegacyStream cfg ipscStream burstType now slot false
        { slot with
          outCall := { slot.outCall with
            streamId := none, lc := none, embLc := none, ipscStreamByte := some streamByte }
          lock := releaseCallLock cfg .ipsc now slot.lock }

theorem legacyIpscStreamDrop_cases (cfg : Config) (ipscStream : Option UInt8) (burstType : UInt8)
    (now : Time) (slot : Slot) :
    LegacyStream cfg ipscStream burstType now slot
      (legacyIpscStreamDrop cfg ipscStream burstType now slot).1
      (legacyIpscStreamDrop cfg ipscStream burstType now slot).2 := by
  unfold legacyIpscStreamDrop
  cases legacy : cfg.legacyFlow with
  | false => exact .kept (by simp [legacy])
  | true =>
      cases stream : ipscStream with
      | none => exact .kept (by simp)
      | some streamByte =>
          by_cases head : burstType = voiceHead
          · by_cases changed : slot.outCall.ipscStreamByte.isSome = true ∧
                slot.outCall.streamId.isSome = true ∧ slot.outCall.ipscStreamByte ≠ some streamByte
            · obtain ⟨current, opened, different⟩ := changed
              simp only [head, if_true, current, opened, Bool.true_and, different, ne_eq,
                not_false_eq_true, decide_true]
              exact .restarted streamByte legacy rfl rfl opened different
            · have same : slot.outCall.streamId.isSome = true →
                  slot.outCall.ipscStreamByte = none ∨
                    slot.outCall.ipscStreamByte = some streamByte := by
                intro opened
                cases current : slot.outCall.ipscStreamByte with
                | none => exact .inl rfl
                | some byte =>
                    right
                    by_contra different
                    exact changed ⟨by simp [current], opened, by rwa [current]⟩
              have unchanged : (slot.outCall.ipscStreamByte.isSome && slot.outCall.streamId.isSome &&
                  decide (slot.outCall.ipscStreamByte ≠ some streamByte)) = false := by
                simpa [and_assoc] using changed
              simp only [head, if_true, unchanged, Bool.false_eq_true, if_false]
              exact .recorded streamByte legacy rfl rfl same
          · simp only [head, if_false]
            cases stale : slot.outCall.ipscStreamByte.isNone && !slot.outCall.streamId.isSome with
            | true => exact .stale legacy head (by simp at stale; exact stale.2)
            | false => exact .kept fun _ _ => head

/-- The reflection test changes only the reflection tables. -/
theorem shouldSuppressIpscReflection_frame (cfg : Config) (ipscStream : Option UInt8)
    (burstType : UInt8) (srcSub dstGroup : Bytes) (now : Time) (slot : Slot) :
    ∃ suppressed reflect, shouldSuppressIpscReflection cfg ipscStream burstType srcSub dstGroup now
      slot = (suppressed, { slot with reflect := reflect }) := by
  unfold shouldSuppressIpscReflection
  split
  case isTrue => exact ⟨false, slot.reflect, rfl⟩
  case isFalse =>
    split
    case h_1 => exact ⟨false, slot.reflect, rfl⟩
    case h_2 =>
      simp only
      repeat' first
        | exact ⟨_, _, rfl⟩
        | split

/-- The reflection test reads the reflection tables and whether the inbound call has started. -/
theorem shouldSuppressIpscReflection_congr (cfg : Config) (ipscStream : Option UInt8)
    (burstType : UInt8) (srcSub dstGroup : Bytes) (now : Time) (slot other : Slot)
    (reflect : slot.reflect = other.reflect) (started : slot.inCall.started = other.inCall.started) :
    (shouldSuppressIpscReflection cfg ipscStream burstType srcSub dstGroup now slot).1 =
      (shouldSuppressIpscReflection cfg ipscStream burstType srcSub dstGroup now other).1 := by
  unfold shouldSuppressIpscReflection
  split
  case isTrue => rfl
  case isFalse =>
    split
    case h_1 => rfl
    case h_2 => simp only [apply_ite Prod.fst, reflect, started]

/-- The state in which `ipsc_voice_received` asks the call lock; the flag says that it is stale. -/
def legacyPrelude (cfg : Config) (data : Bytes) (burstType : UInt8) (clock : Clock) (slot : Slot) :
    Bool × Slot :=
  legacyIpscStreamDrop cfg data[gvIpscSeqOff]? burstType (clock 1)
    { slot with outCall.lastPkt := clock 0 }

/-- The packet flow lets every packet go on to the call lock. -/
theorem legacyPrelude_packetFlow {cfg : Config} (packetFlow : cfg.legacyFlow = false) (data : Bytes)
    (burstType : UInt8) (clock : Clock) (slot : Slot) :
    legacyPrelude cfg data burstType clock slot =
      (false, { slot with outCall.lastPkt := clock 0 }) := by
  unfold legacyPrelude legacyIpscStreamDrop
  rw [packetFlow]

/-- The three tests that a packet passes before its burst is handled. -/
def ipscGate (cfg : Config) (data : Bytes) (burstType : UInt8) (clock : Clock) (slot : Slot) :
    Bool × Slot :=
  let prelude := legacyPrelude cfg data burstType clock slot
  if prelude.1 then prelude
  else
    let blocked := callLockBlocks cfg prelude.2 (.ipsc data[gvIpscSeqOff]?) (gvSrcSub data)
      (gvDstGroup data) (burstType = voiceTerm) (clock 2)
    if blocked.1 then blocked
    else
      let suppressed := shouldSuppressIpscReflection cfg data[gvIpscSeqOff]? burstType
        (gvSrcSub data) (gvDstGroup data) (clock 3) blocked.2
      if suppressed.1 then suppressed
      else (false, { suppressed.2 with ipscBusyLast := clock 4 })

/-- A packet that passes the gate goes on to its burst. -/
theorem ipscVoiceReceived_eq (dmr : DmrUtils) (cfg : Config) (data : Bytes) (ts : Timeslot)
    (burstType : UInt8) (urandom : StreamId) (clock : Clock) (shared : Shared) (slot : Slot) :
    ipscVoiceReceived dmr cfg true data ts burstType urandom clock shared slot =
      if (ipscGate cfg data burstType clock slot).1 then
        (shared, (ipscGate cfg data burstType clock slot).2, [])
      else
        sendBurst cfg ts (gvSrcSub data) (gvDstGroup data) burstType (clock 5) (shared.learn data)
          (burstOf dmr cfg data (gvSrcSub data) (gvDstGroup data) burstType urandom
            (ipscGate cfg data burstType clock slot).2) := by
  unfold ipscVoiceReceived ipscGate legacyPrelude
  simp only [Bool.not_true, Bool.false_eq_true, if_false]
  split
  case isTrue => rfl
  case isFalse =>
    split
    case isTrue => rfl
    case isFalse =>
      split
      case isTrue => rfl
      case isFalse => rfl

/-- The four ways through the gate, over the state that the legacy stream test left. -/
inductive IpscGate (cfg : Config) (data : Bytes) (burstType : UInt8) (clock : Clock) (slot : Slot) :
    Bool → Slot → Prop
  | stale : IpscGate cfg data burstType clock slot true slot
  | blocked (lock : CallLock)
      (verdict : LockVerdict cfg slot (.ipsc data[gvIpscSeqOff]?) (gvDstGroup data) (clock 2) true
        lock) :
      IpscGate cfg data burstType clock slot true { slot with lock := lock }
  | suppressed (lock : CallLock) (reflect : Reflect)
      (verdict : LockVerdict cfg slot (.ipsc data[gvIpscSeqOff]?) (gvDstGroup data) (clock 2) false
        lock) :
      IpscGate cfg data burstType clock slot true { slot with lock := lock, reflect := reflect }
  | admitted (lock : CallLock) (reflect : Reflect)
      (verdict : LockVerdict cfg slot (.ipsc data[gvIpscSeqOff]?) (gvDstGroup data) (clock 2) false
        lock)
      (heard : (shouldSuppressIpscReflection cfg data[gvIpscSeqOff]? burstType (gvSrcSub data)
        (gvDstGroup data) (clock 3) { slot with lock := lock }).1 = false) :
      IpscGate cfg data burstType clock slot false
        { slot with lock := lock, reflect := reflect, ipscBusyLast := clock 4 }

theorem ipscGate_cases (cfg : Config) (data : Bytes) (burstType : UInt8) (clock : Clock)
    (slot : Slot) :
    IpscGate cfg data burstType clock (legacyPrelude cfg data burstType clock slot).2
      (ipscGate cfg data burstType clock slot).1 (ipscGate cfg data burstType clock slot).2 := by
  unfold ipscGate
  cases stale : (legacyPrelude cfg data burstType clock slot).1 with
  | true =>
      simp only [if_true, stale]
      exact .stale
  | false =>
      obtain ⟨blocked, lock, decided, verdict⟩ := callLockBlocks_verdict cfg
        (legacyPrelude cfg data burstType clock slot).2 (.ipsc data[gvIpscSeqOff]?) (gvSrcSub data)
        (gvDstGroup data) (burstType = voiceTerm) (clock 2)
      simp only [decided]
      cases blocked with
      | true =>
          simp only [if_true, stale, Bool.false_eq_true, if_false]
          exact .blocked lock verdict
      | false =>
          simp only [Bool.false_eq_true, if_false]
          obtain ⟨suppressed, reflect, judged⟩ := shouldSuppressIpscReflection_frame cfg
            data[gvIpscSeqOff]? burstType (gvSrcSub data) (gvDstGroup data) (clock 3)
            { (legacyPrelude cfg data burstType clock slot).2 with lock := lock }
          simp only [judged]
          cases suppressed with
          | true =>
              simp only [if_true, stale, Bool.false_eq_true, if_false]
              exact .suppressed lock reflect verdict
          | false =>
              simp only [stale, Bool.false_eq_true, if_false]
              exact .admitted lock reflect verdict (by rw [judged])

/-- Sending a burst touches only the sequence byte of the shared fields. -/
theorem sendBurst_shared (cfg : Config) (ts : Timeslot) (srcSub dstGroup : Bytes)
    (burstType : UInt8) (now : Time) (shared : Shared) (burst : Burst) :
    ∃ seq, (sendBurst cfg ts srcSub dstGroup burstType now shared burst).1 =
      { shared with outSeq := seq } := by
  cases burst with
  | done slot actions => exact ⟨shared.outSeq, rfl⟩
  | frame slot actions payload flags =>
      cases opened : slot.outCall.streamId with
      | none => exact ⟨shared.outSeq, by simp only [sendBurst, opened]⟩
      | some streamId => exact ⟨_, by simp only [sendBurst, opened]; rfl⟩

/-- The shared fields learn from an admitted packet and count its frames. -/
theorem ipscVoiceReceived_shared (dmr : DmrUtils) (cfg : Config) (connected : Bool) (data : Bytes)
    (ts : Timeslot) (burstType : UInt8) (urandom : StreamId) (clock : Clock) (shared : Shared)
    (slot : Slot) :
    (ipscVoiceReceived dmr cfg connected data ts burstType urandom clock shared slot).1 = shared ∨
      ∃ seq, (ipscVoiceReceived dmr cfg connected data ts burstType urandom clock shared slot).1 =
        { shared.learn data with outSeq := seq } := by
  cases connected with
  | false => exact .inl rfl
  | true =>
      rw [ipscVoiceReceived_eq]
      split
      case isTrue => exact .inl rfl
      case isFalse => exact .inr (sendBurst_shared ..)

/-- The flag bit of a timeslot. -/
def timeslotFlag (ts : Timeslot) : UInt8 := if ts = .ts2 then hbpfTgidTs2 else 0x00

/-- The VOICE_LC_HEAD frame of a packet. -/
def headFrame (dmr : DmrUtils) (cfg : Config) (ts : Timeslot) (data streamId : Bytes)
    (seq : UInt8) : Bytes :=
  dmrdFrame cfg seq (gvSrcSub data) (gvDstGroup data)
    (timeslotFlag ts ||| (hbpfFrametypeDatasync ||| hbpfSltVhead)) streamId
    (lcPayload dmr (dmr.encodeHeaderLc (gvLc dmr data)) dmr.slotTypeVoiceLcHead)

/-- The VOICE_LC_TERM frame of a packet, with the LC of the call. -/
def termFrame (dmr : DmrUtils) (cfg : Config) (ts : Timeslot) (data lc streamId : Bytes)
    (seq : UInt8) : Bytes :=
  dmrdFrame cfg seq (gvSrcSub data) (gvDstGroup data)
    (timeslotFlag ts ||| (hbpfFrametypeDatasync ||| hbpfSltVterm)) streamId
    (lcPayload dmr (dmr.encodeTerminatorLc lc) dmr.slotTypeVoiceLcTerm)

/-- The voice frame of a packet at superframe position `pos`. -/
def voiceFrame (dmr : DmrUtils) (cfg : Config) (ts : Timeslot) (data : Bytes) (pos : Nat)
    (embLc : Option EmbLc) (streamId : Bytes) (seq : UInt8) : Bytes :=
  dmrdFrame cfg seq (gvSrcSub data) (gvDstGroup data)
    (timeslotFlag ts |||
      if pos = 0 then hbpfFrametypeVoicesync else hbpfFrametypeVoice ||| UInt8.ofNat pos)
    streamId (voicePayload dmr (data.extract 33 52) (buildEmbed dmr pos embLc))

/-- The outbound call after a packet's header. -/
def OutCall.withHead (dmr : DmrUtils) (data streamId : Bytes) (outCall : OutCall) : OutCall :=
  { outCall with
    streamId := some streamId, framePos := 0, lc := some (gvLc dmr data),
    embLc := some (dmr.encodeEmblc (gvLc dmr data)) }

/-- The outbound call that a burst E opens late. -/
def OutCall.enterLate (dmr : DmrUtils) (data streamId : Bytes) (outCall : OutCall) : OutCall :=
  { outCall with
    streamId := some streamId, framePos := 4, lc := some (gvLc dmr data),
    embLc := some (dmr.encodeEmblc (gvLc dmr data)) }

/-- A burst is voice when it is neither a header nor a terminator. -/
def IsVoice (burstType : UInt8) : Prop := burstType ≠ voiceHead ∧ burstType ≠ voiceTerm

/-- A packet may open a stream late when no stream is open and it is marked as a burst E. -/
structure LateEntry (cfg : Config) (data : Bytes) (burstType : UInt8) (slot : Slot) : Prop where
  voice : IsVoice burstType
  closed : slot.outCall.streamId = none
  flow : cfg.legacyFlow = false
  mark : data[32]? = some 0x16

/-- The ways in which an admitted packet acts on its timeslot. -/
inductive BurstOutcome (dmr : DmrUtils) (cfg : Config) (ts : Timeslot) (data : Bytes)
    (burstType : UInt8) (urandom : StreamId) (now : Time) (seq : UInt8) (slot : Slot) :
    Slot → List Action → Prop
  | ignored : BurstOutcome dmr cfg ts data burstType urandom now seq slot slot []
  | outOfRange (voice : IsVoice burstType) (closed : slot.outCall.streamId = none)
      (flow : cfg.legacyFlow = false) (short : data[32]? = none) :
      BurstOutcome dmr cfg ts data burstType urandom now seq slot slot [.raised .indexError]
  | headOpened (head : burstType = voiceHead) (closed : slot.outCall.streamId = none) :
      BurstOutcome dmr cfg ts data burstType urandom now seq slot
        { slot with outCall := slot.outCall.withHead dmr data urandom.val }
        (.openStream urandom.val (gvLc dmr data) ::
          sendFrames (headFrame dmr cfg ts data urandom.val) (if cfg.legacyFlow then 2 else 1) seq)
  | headRepeated (streamId : Bytes) (head : burstType = voiceHead)
      (opened : slot.outCall.streamId = some streamId) (flow : cfg.legacyFlow = false) :
      BurstOutcome dmr cfg ts data burstType urandom now seq slot
        { slot with outCall := slot.outCall.withHead dmr data streamId }
        [.sendDmrd (headFrame dmr cfg ts data streamId seq)]
  | ended (streamId : Bytes) (term : burstType = voiceTerm)
      (opened : slot.outCall.streamId = some streamId) :
      BurstOutcome dmr cfg ts data burstType urandom now seq slot (endIpscCall cfg now slot)
        [.sendDmrd (termFrame dmr cfg ts data (truthyOr slot.outCall.lc (gvLc dmr data))
          streamId seq)]
  | voiceSent (streamId : Bytes) (voice : IsVoice burstType)
      (opened : slot.outCall.streamId = some streamId) (long : 52 ≤ data.length) :
      BurstOutcome dmr cfg ts data burstType urandom now seq slot
        { slot with outCall.framePos := slot.outCall.framePos + 1 }
        [.sendDmrd (voiceFrame dmr cfg ts data (slot.outCall.framePos % 6) slot.outCall.embLc
          streamId seq)]
  | enteredLate (late : LateEntry cfg data burstType slot) (long : 52 ≤ data.length) :
      BurstOutcome dmr cfg ts data burstType urandom now seq slot
        { slot with
          outCall := { slot.outCall.enterLate dmr data urandom.val with framePos := 5 } }
        [.openStream urandom.val (gvLc dmr data),
          .sendDmrd (voiceFrame dmr cfg ts data 4 (some (dmr.encodeEmblc (gvLc dmr data)))
            urandom.val seq)]
  | enteredSilent (late : LateEntry cfg data burstType slot) (short : data.length < 52) :
      BurstOutcome dmr cfg ts data burstType urandom now seq slot
        { slot with outCall := slot.outCall.enterLate dmr data urandom.val }
        [.openStream urandom.val (gvLc dmr data)]

/-- A frame of an open stream is sent as often as its burst asks. -/
theorem sendBurst_frame {cfg : Config} {ts : Timeslot} {srcSub dstGroup : Bytes} {burstType : UInt8}
    {now : Time} {shared : Shared} {slot : Slot} {actions : List Action} {payload : Bytes}
    {flags : UInt8} {streamId : Bytes} (opened : slot.outCall.streamId = some streamId) :
    (sendBurst cfg ts srcSub dstGroup burstType now shared (.frame slot actions payload flags)).2 =
      (if burstType = voiceTerm then endIpscCall cfg now slot else slot,
        actions ++ sendFrames
          (fun seq => dmrdFrame cfg seq srcSub dstGroup (timeslotFlag ts ||| flags) streamId payload)
          (if cfg.legacyFlow && burstType = voiceHead then 2 else 1) shared.outSeq) := by
  simp only [sendBurst, opened, timeslotFlag]

/-- An admitted packet acts in one of these ways. -/
theorem sendBurst_cases (dmr : DmrUtils) (cfg : Config) (ts : Timeslot) (data : Bytes)
    (burstType : UInt8) (urandom : StreamId) (now : Time) (shared : Shared) (slot : Slot) :
    BurstOutcome dmr cfg ts data burstType urandom now shared.outSeq slot
      (sendBurst cfg ts (gvSrcSub data) (gvDstGroup data) burstType now shared
        (burstOf dmr cfg data (gvSrcSub data) (gvDstGroup data) burstType urandom slot)).2.1
      (sendBurst cfg ts (gvSrcSub data) (gvDstGroup data) burstType now shared
        (burstOf dmr cfg data (gvSrcSub data) (gvDstGroup data) burstType urandom slot)).2.2 := by
  unfold burstOf
  by_cases head : burstType = voiceHead
  · subst head
    rw [if_pos rfl]
    unfold headBurst
    cases opened : slot.outCall.streamId with
    | none =>
        simp only
        rw [sendBurst_frame rfl, if_neg (by decide), decide_eq_true rfl, Bool.and_true]
        exact .headOpened rfl opened
    | some streamId =>
        cases flow : cfg.legacyFlow with
        | true => exact .ignored
        | false =>
            simp only [Bool.false_eq_true, if_false]
            rw [sendBurst_frame rfl, if_neg (by decide), flow, Bool.false_and]
            exact .headRepeated streamId rfl opened flow
  · rw [if_neg head]
    by_cases term : burstType = voiceTerm
    · rw [if_pos term]
      unfold termBurst
      cases opened : slot.outCall.streamId with
      | none => exact .ignored
      | some streamId =>
          simp only
          rw [sendBurst_frame opened, if_pos term, decide_eq_false head, Bool.and_false]
          exact .ended streamId term opened
    · have voice : IsVoice burstType := ⟨head, term⟩
      rw [if_neg term]
      unfold voiceBurst openVoiceBurst
      cases opened : slot.outCall.streamId with
      | some streamId =>
          by_cases short : data.length < 52
          · simp only [if_pos short]
            exact .ignored
          · have still : { slot with outCall.framePos := slot.outCall.framePos + 1 }.outCall.streamId =
                some streamId := opened
            simp only [if_neg short]
            rw [sendBurst_frame still, if_neg term, decide_eq_false head, Bool.and_false]
            exact .voiceSent streamId voice opened (Nat.le_of_not_lt short)
      | none =>
          cases flow : cfg.legacyFlow with
          | true => exact .ignored
          | false =>
              simp only [Bool.false_eq_true, if_false]
              cases marked : data[32]? with
              | none => exact .outOfRange voice opened flow marked
              | some mark =>
                  by_cases burstE : mark = 0x16
                  · have late : LateEntry cfg data burstType slot :=
                      ⟨voice, opened, flow, by rw [marked, burstE]⟩
                    by_cases short : data.length < 52
                    · simp only [burstE, ne_eq, not_true_eq_false, if_false, if_pos short]
                      exact .enteredSilent late short
                    · simp only [burstE, ne_eq, not_true_eq_false, if_false, if_neg short]
                      rw [sendBurst_frame rfl, if_neg term, flow, Bool.false_and]
                      exact .enteredLate late (Nat.le_of_not_lt short)
                  · simp only [ne_eq, burstE, not_false_eq_true, if_true]
                    exact .ignored

/-- A step on the IPSC side keeps the inbound call, the queue and the hold of the lock. -/
structure IpscSide (after before : Slot) : Prop where
  inCall : after.inCall = before.inCall
  tx : after.tx = before.tx
  owner : after.lock.owner = before.lock.owner
  tg : after.lock.tg = before.lock.tg

/-- The prelude stamps the packet's time and then treats its stream. -/
theorem legacyPrelude_cases (cfg : Config) (data : Bytes) (burstType : UInt8) (clock : Clock)
    (slot : Slot) :
    LegacyStream cfg data[gvIpscSeqOff]? burstType (clock 1) { slot with outCall.lastPkt := clock 0 }
      (legacyPrelude cfg data burstType clock slot).1
      (legacyPrelude cfg data burstType clock slot).2 :=
  legacyIpscStreamDrop_cases ..

/-- The prelude touches the outbound call and the hang time of the lock; it opens no stream. -/
theorem legacyPrelude_frame (cfg : Config) (data : Bytes) (burstType : UInt8) (clock : Clock)
    (slot : Slot) :
    ∃ outCall lockUntil, (legacyPrelude cfg data burstType clock slot).2 =
        { slot with outCall := outCall, lock.lockUntil := lockUntil } ∧
      (outCall.streamId = none ∨
        (outCall.streamId = slot.outCall.streamId ∧ outCall.lc = slot.outCall.lc)) := by
  have ways := legacyPrelude_cases cfg data burstType clock slot
  generalize (legacyPrelude cfg data burstType clock slot).2 = after at ways
  generalize (legacyPrelude cfg data burstType clock slot).1 = stale at ways
  cases ways with
  | kept | stale | recorded => exact ⟨_, slot.lock.lockUntil, rfl, .inr ⟨rfl, rfl⟩⟩
  | restarted =>
      obtain ⟨lockUntil, released⟩ := releaseCallLock_frame cfg .ipsc (clock 1) slot.lock
      rw [released]
      exact ⟨_, lockUntil, rfl, .inl rfl⟩

/-- A stream that the prelude leaves closed was closed before, or a legacy header restarts it. -/
theorem legacyPrelude_closed (cfg : Config) (data : Bytes) (burstType : UInt8) (clock : Clock)
    (slot : Slot)
    (closed : (legacyPrelude cfg data burstType clock slot).2.outCall.streamId = none) :
    slot.outCall.streamId = none ∨ (cfg.legacyFlow = true ∧
      slot.outCall.ipscStreamByte ≠ data[gvIpscSeqOff]? ∧ data[gvIpscSeqOff]? ≠ none) := by
  have ways := legacyPrelude_cases cfg data burstType clock slot
  generalize (legacyPrelude cfg data burstType clock slot).2 = after at ways closed
  generalize (legacyPrelude cfg data burstType clock slot).1 = stale at ways
  cases ways with
  | kept | stale | recorded => exact .inl closed
  | restarted streamByte legacy stream head opened changed =>
      exact .inr ⟨legacy, by rwa [stream], by rw [stream]; simp⟩

theorem legacyPrelude_side (cfg : Config) (data : Bytes) (burstType : UInt8) (clock : Clock)
    (slot : Slot) : IpscSide (legacyPrelude cfg data burstType clock slot).2 slot := by
  obtain ⟨outCall, lockUntil, framed, -⟩ := legacyPrelude_frame cfg data burstType clock slot
  rw [framed]
  exact ⟨rfl, rfl, rfl, rfl⟩

theorem BurstOutcome.side {dmr : DmrUtils} {cfg : Config} {ts : Timeslot} {data : Bytes}
    {burstType : UInt8} {urandom : StreamId} {now : Time} {seq : UInt8} {slot after : Slot}
    {actions : List Action}
    (outcome : BurstOutcome dmr cfg ts data burstType urandom now seq slot after actions) :
    IpscSide after slot := by
  cases outcome with
  | ended =>
      exact ⟨rfl, rfl, releaseCallLock_owner .., releaseCallLock_tg ..⟩
  | ignored | outOfRange | headOpened | headRepeated | voiceSent | enteredLate | enteredSilent =>
      exact ⟨rfl, rfl, rfl, rfl⟩

/-- An action of the IPSC side sends nothing towards IPSC. -/
def Action.FromIpsc : Action → Prop
  | .openStream .. | .sendDmrd _ | .raised _ => True
  | .generate _ | .queueFull _ | .slotBusy _ | .sendToPeer _ => False

theorem sendFrames_fromIpsc (frame : UInt8 → Bytes) (count : Nat) (seq : UInt8) :
    ∀ action ∈ sendFrames frame count seq, action.FromIpsc := by
  induction count generalizing seq with
  | zero => simp [sendFrames]
  | succ count ih =>
      intro action member
      rcases List.mem_cons.mp member with rfl | later
      · trivial
      · exact ih _ action later

theorem BurstOutcome.fromIpsc {dmr : DmrUtils} {cfg : Config} {ts : Timeslot} {data : Bytes}
    {burstType : UInt8} {urandom : StreamId} {now : Time} {seq : UInt8} {slot after : Slot}
    {actions : List Action}
    (outcome : BurstOutcome dmr cfg ts data burstType urandom now seq slot after actions) :
    ∀ action ∈ actions, action.FromIpsc := by
  cases outcome with
  | headOpened =>
      intro action member
      rcases List.mem_cons.mp member with rfl | later
      · trivial
      · exact sendFrames_fromIpsc _ _ _ action later
  | ignored | outOfRange | headRepeated | ended | voiceSent | enteredLate | enteredSilent =>
      simp [Action.FromIpsc]

/-- An IPSC packet keeps the inbound call and the pacing state and generates nothing. -/
theorem ipscVoiceReceived_inbound (dmr : DmrUtils) (cfg : Config) (connected : Bool) (data : Bytes)
    (ts : Timeslot) (burstType : UInt8) (urandom : StreamId) (clock : Clock) (shared : Shared)
    (slot : Slot) :
    let result := ipscVoiceReceived dmr cfg connected data ts burstType urandom clock shared slot
    result.2.1.inCall = slot.inCall ∧ result.2.1.tx = slot.tx ∧
      ∀ action ∈ result.2.2, action.FromIpsc := by
  cases connected with
  | false => exact ⟨rfl, rfl, by simp [ipscVoiceReceived]⟩
  | true =>
      rw [ipscVoiceReceived_eq]
      have before := legacyPrelude_side cfg data burstType clock slot
      have gate := ipscGate_cases cfg data burstType clock slot
      generalize legacyPrelude cfg data burstType clock slot = prelude at before gate
      generalize ipscGate cfg data burstType clock slot = passed at gate
      rcases passed with ⟨dropped, after⟩
      cases gate with
      | stale | blocked | suppressed => exact ⟨before.inCall, before.tx, by simp⟩
      | admitted lock reflect verdict heard =>
          have outcome := sendBurst_cases dmr cfg ts data burstType urandom (clock 5)
            (shared.learn data)
            { prelude.2 with lock := lock, reflect := reflect, ipscBusyLast := clock 4 }
          exact ⟨outcome.side.inCall.trans before.inCall, outcome.side.tx.trans before.tx,
            outcome.fromIpsc⟩

end Ipsc2Hbp
