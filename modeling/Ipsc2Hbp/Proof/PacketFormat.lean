import Ipsc2Hbp.Proof.Backward
import Ipsc2Hbp.Proof.CallRecords
import Ipsc2Hbp.Proof.DuplicateHeads

namespace Ipsc2Hbp
open BigEndian

/-- The total length of a packet: a header or terminator, a burst A, a burst E or another burst. -/
def HbpFrame.packetLength (frame : HbpFrame) (burstType : UInt8) : Nat :=
  if burstType = voiceHead ∨ burstType = voiceTerm then 54
  else if frame.frameType = hbpfFrametypeVoicesync then 52
  else if frame.dtype = 4 then 66
  else 57

/-- The length field counts what is behind it: the 16-bit words of a header or terminator, and the
bytes of a voice packet. -/
def CountsRest (burstType : UInt8) (packet : Bytes) : Prop :=
  if burstType = voiceHead ∨ burstType = voiceTerm then
    34 + 2 * bytesToNat (packet.extract 32 34) = packet.length
  else ∃ follow, packet[31]? = some follow ∧ 32 + follow.toNat = packet.length

/-- A generated packet has the length of its kind, counts its bytes and shows its frame's timeslot,
source and talkgroup, the call's stream byte and the burst type that it was passed on with. -/
structure QueueEntry.WellFormed (frame : HbpFrame) (streamId : UInt8) (entry : QueueEntry) : Prop where
  length : entry.packet.length = frame.packetLength entry.burstType
  follow : CountsRest entry.burstType entry.packet
  parsed : parseGroupVoiceMeta entry.packet = .ok (frame.timeslot, entry.burstType)
  srcSub : gvSrcSub entry.packet = frame.srcSub
  dstGroup : gvDstGroup entry.packet = frame.dstGroup
  stream : gvStream entry.packet = some streamId

/-- A frame is passed on under its own burst type, after the headers of a start at most. -/
def HbpFrame.Intends (frame : HbpFrame) (burstTypes : List UInt8) : Prop :=
  burstTypes = [] ∨ ∃ heads, burstTypes = List.replicate heads voiceHead ++ [frame.burstType] ∧
    (frame.isTerm = true → heads = 0)

/-- The LC of a call has nine bytes. -/
def InCall.LcWide (inCall : InCall) : Prop := ∀ lc ∈ inCall.lc, lc.length = 9

variable {dmr : DmrUtils} {cfg : Config}

/-- The LC that is spelled by a frame has nine bytes. -/
theorem frameLc_length (documented : dmr.Documented) {frame : HbpFrame} (frameWide : frame.Wide) :
    (frameLc dmr frame).length = 9 := by
  simp only [frameLc, List.length_append, documented.lcOpt_length, frameWide.dstGroup,
    frameWide.srcSub]

/-- The LC that is decoded from a frame has nine bytes. -/
theorem decodeHbpVoiceLc_length (documented : dmr.Documented) {payload : Bytes}
    (payloadWide : payload.length = 33) : (decodeHbpVoiceLc dmr payload).length = 9 := by
  have codeword : ((bytesToBits payload).extract 0 98 ++
      (bytesToBits payload).extract 166 264).length = 196 := by
    simp only [List.length_append, extract_length, bytesToBits_length, payloadWide]
    decide
  have decoded := documented.decodeFullLc_length _ codeword
  unfold decodeHbpVoiceLc
  simp only
  rw [bitsToBytes_length _ (by rw [decoded]; decide), decoded]

/-- A recorded LC or its substitute has nine bytes. -/
theorem InCall.LcWide.truthyOr {inCall : InCall} (lcWide : inCall.LcWide) {fallback : Bytes}
    (fallbackWide : fallback.length = 9) : (truthyOr inCall.lc fallback).length = 9 := by
  cases recorded : inCall.lc with
  | none => exact fallbackWide
  | some lc =>
      rw [truthyOr_some (lcWide lc recorded)]
      exact lcWide lc recorded

theorem InCall.LcWide.continues {before after : InCall} (lcWide : before.LcWide)
    (continues : after.Continues before) : after.LcWide := by
  obtain ⟨rtpSeq, rtpTs, started, rfl⟩ := continues
  exact lcWide

theorem openHbpCall_lcWide (dmr : DmrUtils) (frame : HbpFrame) {lc : Bytes} (wide : lc.length = 9)
    (draw : RtpDraw) (now : Time) (shared : Shared) (slot : Slot) :
    (openHbpCall dmr frame lc draw now shared slot).2.inCall.LcWide := by
  intro stored recorded
  obtain rfl := Option.some.inj recorded
  exact wide

theorem InCall.lcWide_of_closed {inCall : InCall} (closed : inCall.lc = none) : inCall.LcWide := by
  intro lc recorded
  rw [closed] at recorded
  cases recorded

/-- A frame that the lock lets in records LCs of nine bytes only. -/
theorem HbpOutcome.lcWide (documented : dmr.Documented) {frame : HbpFrame} (frameWide : frame.Wide)
    {draw : RtpDraw} {clock : Clock} {shared : Shared} {slot : Slot}
    {result : Shared × Slot × List Action}
    (outcome : HbpOutcome dmr cfg frame draw clock shared slot result)
    (lcWide : slot.inCall.LcWide) : result.2.1.inCall.LcWide := by
  have decoded := decodeHbpVoiceLc_length documented frameWide.payload
  cases outcome with
  | foreignTerm | voiceIgnored => exact lcWide
  | headMerged head duplicate =>
      intro stored recorded
      obtain rfl := Option.some.inj recorded
      exact decoded
  | headOpened opened head fresh waits recorded =>
      subst recorded
      apply openHbpCall_lcWide dmr frame decoded
  | headStarted opened head fresh atOnce recorded =>
      subst recorded
      have opened := openHbpCall_lcWide dmr frame decoded draw (clock 0) shared slot
      exact opened.continues (emitHbpIpscStart_continues ..)
  | endedSilent | ended => exact InCall.lcWide_of_closed rfl
  | voiceContinued => exact lcWide.continues (continueVoice_continues ..)
  | voiceOpened opened notHead notTerm closed flow recorded =>
      subst recorded
      have opened := openHbpCall_lcWide dmr frame (frameLc_length documented frameWide) draw (clock 0)
        shared slot
      exact opened.continues (continueVoice_continues ..)

/-- Every step of a slot records LCs of nine bytes only. -/
theorem InCall.LcWide.slotStep (documented : dmr.Documented) {slot : Slot}
    (lcWide : slot.inCall.LcWide) (ts : Timeslot) (shared : Shared) {part : SlotEvent}
    (formed : part.Formed ts) : (slotStep dmr cfg ts shared slot part).2.1.inCall.LcWide := by
  cases part with
  | ipscVoice connected data burstType urandom clock =>
      obtain ⟨inCall, -⟩ := ipscVoiceReceived_inbound dmr cfg connected data ts burstType urandom clock
        shared slot
      exact inCall ▸ lcWide
  | hbpFrame frame draw clock =>
      obtain ⟨blocked, lock, -, received⟩ :=
        hbpFrameReceived_cases dmr cfg frame draw clock shared slot
      change (hbpFrameReceived dmr cfg frame draw clock shared slot).2.1.inCall.LcWide
      rw [received]
      cases blocked with
      | true => exact lcWide
      | false =>
          have outcome := hbpAdmitted_cases dmr cfg frame draw clock shared
            { slot with inCall.lastPkt := clock 0, lock := lock }
          exact outcome.lcWide documented formed.1 lcWide
  | drain clock =>
      have outcome := drainHbpToIpscQueue_cases cfg clock slot
      exact outcome.inCall ▸ lcWide
  | checkCallTimeouts timeout clock =>
      change (Ipsc2Hbp.checkCallTimeouts cfg timeout clock ts slot).inCall.LcWide
      rcases (checkCallTimeouts_frame cfg timeout clock ts slot).2 with same | reset
      · rwa [same]
      · rw [reset]
        exact InCall.lcWide_of_closed rfl
  | peerLost | hbpDisconnected => exact InCall.lcWide_of_closed rfl

/-- In every reachable state the LC of an open call has nine bytes. -/
theorem slot_lcWide (documented : dmr.Documented) (cfg : Config) (events : List Event)
    (ts : Timeslot) : (((translator dmr cfg).run Translator.initial events).1.slot ts).inCall.LcWide :=
  slot_run_always dmr cfg ts (fun _ slot => slot.inCall.LcWide)
    (fun _ shared _ _ _ formed lcWide => lcWide.slotStep documented ts shared formed) events
    (InCall.lcWide_of_closed rfl)

/-- A packet of a call has 30 bytes in front of its payload. -/
theorem callPacket_behind (cfg : Config) {shared : Shared} (wide : shared.Wide) {frame : HbpFrame}
    (frameWide : frame.Wide) (callInfo rtpPt : UInt8) (gvPayload : Bytes) (inCall : InCall) :
    ∃ header, header.length = 30 ∧
      callPacket cfg shared frame callInfo rtpPt gvPayload inCall = header ++ gvPayload := by
  obtain ⟨m0, m1, m2, m3, s0, s1, s2, d0, d1, d2, t, c0, c1, c2, c3, -, -, -, -, layout⟩ :=
    buildGv_layout cfg wide frameWide.srcSub frameWide.dstGroup callInfo rtpPt inCall.streamId
      inCall.rtpSeq inCall.rtpTs gvPayload
  refine ⟨_, ?_, layout⟩
  simp only [List.length_append, natToBytes_length, List.length_cons, List.length_nil]

/-- A packet of a call shows the source and the talkgroup of its frame. -/
theorem callPacket_parties (cfg : Config) {shared : Shared} (wide : shared.Wide) {frame : HbpFrame}
    (frameWide : frame.Wide) (callInfo rtpPt : UInt8) (gvPayload : Bytes) (inCall : InCall) :
    let packet := callPacket cfg shared frame callInfo rtpPt gvPayload inCall
    gvSrcSub packet = frame.srcSub ∧ gvDstGroup packet = frame.dstGroup := by
  obtain ⟨m0, m1, m2, m3, s0, s1, s2, d0, d1, d2, t, c0, c1, c2, c3, source, talkgroup, -, -,
    layout⟩ := buildGv_layout cfg wide frameWide.srcSub frameWide.dstGroup callInfo rtpPt
      inCall.streamId inCall.rtpSeq inCall.rtpTs gvPayload
  intro packet
  have whole : packet = _ := layout
  rw [whole, source, talkgroup]
  exact ⟨rfl, rfl⟩

/-- A packet whose payload has the length of its kind and counts its bytes is well formed. -/
theorem callEntry_wellFormed (cfg : Config) {shared : Shared} (wide : shared.Wide) {frame : HbpFrame}
    (frameWide : frame.Wide) {callInfo : UInt8}
    (timeslot : (if callInfo &&& tsCallMsk ≠ 0 then Timeslot.ts2 else .ts1) = frame.timeslot)
    (rtpPt : UInt8) {burstType : UInt8} (rest : Bytes) (inCall : InCall)
    (length : 31 + rest.length = frame.packetLength burstType)
    (follow : ∀ header : Bytes, header.length = 30 →
      CountsRest burstType (header ++ burstType :: rest)) :
    (callEntry cfg shared frame callInfo rtpPt (burstType :: rest) burstType inCall).WellFormed frame
      inCall.streamId := by
  have fields := callPacket_fields cfg wide frameWide callInfo rtpPt burstType rest inCall
  have parties := callPacket_parties cfg wide frameWide callInfo rtpPt (burstType :: rest) inCall
  obtain ⟨header, headerWide, behind⟩ :=
    callPacket_behind cfg wide frameWide callInfo rtpPt (burstType :: rest) inCall
  constructor
  case length =>
    simp only [callEntry, behind, List.length_append, headerWide, List.length_cons]
    omega
  case follow =>
    simp only [callEntry, behind]
    exact follow header headerWide
  case parsed =>
    have info : (callPacket cfg shared frame callInfo rtpPt (burstType :: rest) inCall)[gvCallInfoOff]? =
      some callInfo := fields.callInfo
    have burst : (callPacket cfg shared frame callInfo rtpPt (burstType :: rest)
      inCall)[gvBurstTypeOff]? = some burstType := fields.burstType
    simp only [callEntry, parseGroupVoiceMeta, info, burst, timeslot]
  case srcSub => exact parties.1
  case dstGroup => exact parties.2
  case stream => exact fields.stream

/-- A header or terminator has 54 bytes and counts ten words. -/
theorem buildIpscVoicePayload_format (documented : dmr.Documented) {lc : Bytes}
    (lcWide : lc.length = 9) {burstType : UInt8}
    (signals : burstType = voiceHead ∨ burstType = voiceTerm) (frame : HbpFrame) :
    31 + (buildIpscVoicePayload dmr lc burstType).length = frame.packetLength burstType ∧
      ∀ header : Bytes, header.length = 30 →
        CountsRest burstType (header ++ burstType :: buildIpscVoicePayload dmr lc burstType) := by
  have whole : lc.take 9 = lc := List.take_of_length_le (by omega)
  have parts : ∃ back, back.length = 20 ∧
      buildIpscVoicePayload dmr lc burstType = 0x80 :: ([0x00, 0x0a] ++ back) := by
    refine ⟨[0x80, 0x0a, 0x00, 0x60] ++ (lc ++ ((if burstType = voiceHead then dmr.lcHeaderEncode lc
      else dmr.lcTerminatorEncode lc) ++ [0x00, if burstType = voiceHead then 0x11 else 0x12, 0x00,
        0x00])), ?_, ?_⟩
    · have fec : (if burstType = voiceHead then dmr.lcHeaderEncode lc
          else dmr.lcTerminatorEncode lc).length = 3 := by
        split
        · exact documented.lcHeaderEncode_length lc lcWide
        · exact documented.lcTerminatorEncode_length lc lcWide
      simp only [List.length_append, fec, lcWide, List.length_cons, List.length_nil]
    · simp only [buildIpscVoicePayload, whole, List.append_assoc]
      rfl
  obtain ⟨back, backWide, parts⟩ := parts
  rw [parts]
  constructor
  · rw [HbpFrame.packetLength, if_pos signals]
    simp only [List.length_cons, List.length_append, List.length_nil, backWide]
  · intro header headerWide
    have words : (header ++ burstType :: 0x80 :: ([0x00, 0x0a] ++ back)).extract 32 34 =
        [0x00, 0x0a] := by
      apply extract_middle (header ++ [burstType, 0x80]) back
      · simp only [List.append_assoc, List.cons_append, List.nil_append]
      · simp only [List.length_append, headerWide, List.length_cons, List.length_nil]
      · rfl
    rw [CountsRest, if_pos signals, words]
    simp only [List.length_append, headerWide, List.length_cons, List.length_nil, backWide]
    decide

/-- The voice burst type of a timeslot is not that of a header or terminator. -/
theorem HbpFrame.slotBurst_voice (frame : HbpFrame) :
    ¬(frame.slotBurst = voiceHead ∨ frame.slotBurst = voiceTerm) := by
  unfold slotBurst
  cases frame.timeslot <;> decide

/-- Thirty-two bits are four bytes. -/
theorem fragment_bytes {bits : Bits} (wide : bits.length = 32) : (bitsToBytes bits).length = 4 := by
  rw [bitsToBytes_length bits (by rw [wide]; decide), wide]

/-- The embedded fragment of a burst has four bytes, whether or not a call is recorded. -/
theorem embFragment_length (documented : dmr.Documented) {slot : Slot} (lcWide : slot.inCall.LcWide)
    (encoded : slot.inCall.embLc = slot.inCall.lc.map dmr.encodeEmblc) {pos : Nat} (least : 1 ≤ pos)
    (most : pos ≤ 4) : (embFragment slot pos).length = 4 := by
  unfold embFragment
  rw [encoded]
  cases recorded : slot.inCall.lc with
  | none => exact fragment_bytes rfl
  | some lc =>
      obtain ⟨fragment, found, wide⟩ :=
        documented.encodeEmblc_fragment lc (lcWide lc recorded) pos least most
      simp only [Option.map_some, found, Option.getD_some]
      exact fragment_bytes wide

/-- The LC prefix of a burst E has three bytes, whether or not a call is recorded. -/
theorem lcPrefix_length {inCall : InCall} (lcWide : inCall.LcWide) :
    ((truthyOr inCall.lc [0x00, 0x00, 0x00]).extract 0 3).length = 3 := by
  cases recorded : inCall.lc with
  | none => rfl
  | some lc =>
      have nine := lcWide lc recorded
      rw [truthyOr_some nine, extract_length, nine]
      rfl

/-- The payload of a voice burst counts its bytes and has the length of its position. -/
theorem hbpVoicePayload_format (documented : dmr.Documented) {frame : HbpFrame}
    (frameWide : frame.Wide) {slot : Slot} (lcWide : slot.inCall.LcWide)
    (encoded : slot.inCall.embLc = slot.inCall.lc.map dmr.encodeEmblc) {gvPayload : Bytes}
    (built : hbpVoicePayload dmr frame slot = .ok gvPayload) :
    ∃ follow rest, gvPayload = frame.slotBurst :: follow :: rest ∧ rest.length = follow.toNat ∧
      32 + rest.length = frame.packetLength frame.slotBurst := by
  have ambeWide := extractAmbeFromDmrd_length documented frameWide.payload
  have prefixWide := lcPrefix_length lcWide
  have fragmentWide : ∀ pos, 1 ≤ pos → pos ≤ 4 → (embFragment slot pos).length = 4 :=
    fun _ => embFragment_length documented lcWide encoded
  rw [HbpFrame.packetLength, if_neg frame.slotBurst_voice]
  unfold hbpVoicePayload at built
  generalize extractAmbeFromDmrd dmr frame.payload = ambe at built ambeWide
  generalize (truthyOr slot.inCall.lc [0x00, 0x00, 0x00]).extract 0 3 = lcPrefix at built prefixWide
  simp only at built
  -- one case for each kind of burst; in each the bytes behind the length byte are counted
  split at built
  case isTrue burstA =>
    have count : (0x40 :: ambe).length = 20 := by rw [List.length_cons, ambeWide]
    refine ⟨0x14, 0x40 :: ambe, (Except.ok.inj built).symm, count, ?_⟩
    rw [if_pos burstA, count]
  case isFalse notA =>
    rw [if_neg notA]
    split at built
    case isTrue burstE =>
      have count : (0x16 :: (ambe ++ (embFragment slot 4 ++ (lcPrefix ++ (frame.dstGroup ++
          (frame.srcSub ++ [0x14])))))).length = 34 := by
        simp only [List.length_cons, List.length_append, List.length_nil, ambeWide, prefixWide,
          fragmentWide 4 (by decide) (by decide), frameWide.dstGroup, frameWide.srcSub]
      refine ⟨0x22, _, ?_, count, ?_⟩
      · rw [← Except.ok.inj built]
        simp only [List.append_assoc, List.cons_append, List.nil_append]
      · rw [if_pos burstE, count]
    case isFalse notE =>
      rw [if_neg notE]
      split at built
      case isTrue burstF =>
        have count : (0x06 :: (ambe ++ [0x00, 0x00, 0x00, 0x00, 0x10])).length = 25 := by
          simp only [List.length_cons, List.length_append, List.length_nil, ambeWide]
        refine ⟨0x19, 0x06 :: (ambe ++ [0x00, 0x00, 0x00, 0x00, 0x10]), ?_, count, ?_⟩
        · exact (Except.ok.inj built).symm
        · rw [count]
      case isFalse early =>
        split at built
        case h_1 => cases built
        case h_2 embHdr found =>
          have most : max frame.dtype.toNat 1 ≤ 4 := by
            rw [UInt8.le_iff_toNat_le] at early
            have bound : ¬5 ≤ frame.dtype.toNat := early
            omega
          have fragment := fragmentWide (max frame.dtype.toNat 1) (Nat.le_max_right _ _) most
          have count : (0x06 :: (ambe ++ (embFragment slot (max frame.dtype.toNat 1) ++
              [embHdr &&& 0xFE]))).length = 25 := by
            simp only [List.length_cons, List.length_append, List.length_nil, ambeWide, fragment]
          refine ⟨0x19, _, ?_, count, ?_⟩
          · rw [← Except.ok.inj built]
            simp only [List.append_assoc, List.cons_append, List.nil_append]
          · rw [count]

/-- A voice packet counts the bytes behind its length byte. -/
theorem voice_countsRest {burstType follow : UInt8}
    (voice : ¬(burstType = voiceHead ∨ burstType = voiceTerm)) {rest : Bytes}
    (counted : rest.length = follow.toNat) {header : Bytes} (headerWide : header.length = 30) :
    CountsRest burstType (header ++ burstType :: follow :: rest) := by
  rw [CountsRest, if_neg voice]
  refine ⟨follow, ?_, ?_⟩
  · rw [List.getElem?_append_right (by omega), headerWide]
    rfl
  · simp only [List.length_append, headerWide, List.length_cons]
    omega

/-- The packets that one frame generates are well formed and have the intended burst types. -/
structure Formatted (frame : HbpFrame) (streamId : UInt8) (entries : List QueueEntry) : Prop where
  all : ∀ entry ∈ entries, entry.WellFormed frame streamId
  intends : frame.Intends (entries.map QueueEntry.burstType)

theorem formatted_nil (frame : HbpFrame) (streamId : UInt8) : Formatted frame streamId [] :=
  ⟨by simp, .inl rfl⟩

/-- The headers of a start. -/
structure HeadersOnly (frame : HbpFrame) (streamId : UInt8) (heads : Nat) (entries : List QueueEntry) :
    Prop where
  all : ∀ entry ∈ entries, entry.WellFormed frame streamId
  burstTypes : entries.map QueueEntry.burstType = List.replicate heads voiceHead

/-- One more packet may follow well-formed ones. -/
theorem wellFormed_snoc {frame : HbpFrame} {streamId : UInt8} {entries : List QueueEntry}
    {entry : QueueEntry} (all : ∀ entry ∈ entries, entry.WellFormed frame streamId)
    (last : entry.WellFormed frame streamId) :
    ∀ other ∈ entries ++ [entry], other.WellFormed frame streamId := by
  intro other member
  rcases List.mem_append.mp member with before | here
  · exact all other before
  · rwa [List.mem_singleton.mp here]

/-- A frame's own packet follows the headers of a start. -/
theorem HeadersOnly.own {frame : HbpFrame} {streamId : UInt8} {heads : Nat}
    {entries : List QueueEntry} (headers : HeadersOnly frame streamId heads entries)
    {entry : QueueEntry} (last : entry.WellFormed frame streamId)
    (burstType : entry.burstType = frame.burstType) (notTerm : frame.isTerm = false) :
    Formatted frame streamId (entries ++ [entry]) := by
  refine ⟨wellFormed_snoc headers.all last, .inr ⟨heads, ?_, ?_⟩⟩
  · rw [List.map_append, headers.burstTypes, ← burstType]
    rfl
  · rw [notTerm]
    exact fun term => Bool.noConfusion term

/-- A start generates the configured number of headers, or none for a call that has started. -/
theorem emitHbpIpscStart_headers (documented : dmr.Documented) (cfg : Config) {shared : Shared}
    (wide : shared.Wide) {frame : HbpFrame} (frameWide : frame.Wide) (clock : Clock) {slot : Slot}
    (lcWide : slot.inCall.LcWide) :
    HeadersOnly frame slot.inCall.streamId (if slot.inCall.started then 0 else cfg.headerCount)
      (generatedEntries (emitHbpIpscStart dmr cfg shared frame clock slot).2) := by
  unfold emitHbpIpscStart
  split
  case isTrue => exact ⟨by simp [generatedEntries], rfl⟩
  case isFalse =>
    have format := buildIpscVoicePayload_format documented
      (lcWide.truthyOr (frameLc_length documented frameWide)) (.inl rfl) frame
    have heads := emitHeads_invariant dmr cfg shared frame
      (truthyOr slot.inCall.lc (dmr.lcOpt ++ frame.dstGroup ++ frame.srcSub)) clock
      (fun idx log after => after.inCall.streamId = slot.inCall.streamId ∧
        HeadersOnly frame slot.inCall.streamId idx (generatedEntries log))
      ?_ cfg.headerCount 0 [] slot ⟨rfl, by simp [generatedEntries], rfl⟩
    · rw [Nat.zero_add, List.nil_append] at heads
      exact heads.2
    · rintro idx log before ⟨same, headers⟩
      have entry := callEntry_wellFormed cfg wide frameWide frame.callInfo_timeslot.1
        (if idx = 0 then 0xdd else 0x5d) _ before.inCall format.1 format.2
      rw [same] at entry
      simp only [generatePacket_inCall, generatedEntries_append, generatePacket_entries]
      refine ⟨same, wellFormed_snoc headers.all entry, ?_⟩
      rw [List.map_append, headers.burstTypes, List.replicate_succ']
      rfl

/-- The headers of a header frame are its own packets. -/
theorem HeadersOnly.started {frame : HbpFrame} {streamId : UInt8} {entries : List QueueEntry}
    (headers : HeadersOnly frame streamId cfg.headerCount entries) (head : frame.isHead = true) :
    Formatted frame streamId entries := by
  obtain ⟨before, count⟩ := Nat.exists_eq_add_of_le' cfg.headerCount_bounds.1
  have own : frame.burstType = voiceHead := by rw [HbpFrame.burstType, if_pos head]
  refine ⟨headers.all, .inr ⟨before, ?_, ?_⟩⟩
  · rw [headers.burstTypes, count, own, List.replicate_succ']
  · rw [HbpFrame.isTerm_of_isHead head]
    exact fun term => Bool.noConfusion term

/-- A voice frame generates the headers of a start that is due and then its own packet. -/
theorem continueVoice_formatted (documented : dmr.Documented) (cfg : Config) {shared : Shared}
    (wide : shared.Wide) {frame : HbpFrame} (frameWide : frame.Wide) (clock : Clock) {slot : Slot}
    (lcWide : slot.inCall.LcWide)
    (encoded : slot.inCall.embLc = slot.inCall.lc.map dmr.encodeEmblc)
    (notHead : frame.isHead = false) (notTerm : frame.isTerm = false) :
    Formatted frame slot.inCall.streamId
      (generatedEntries (continueVoice dmr cfg frame clock shared slot).2) := by
  have headers := emitHbpIpscStart_headers documented cfg wide frameWide
    (fun reading => clock (2 + reading)) lcWide
  have continues := emitHbpIpscStart_continues dmr cfg shared frame
    (fun reading => clock (2 + reading)) slot
  unfold continueVoice
  generalize emitHbpIpscStart dmr cfg shared frame (fun reading => clock (2 + reading)) slot = start
    at headers continues
  have startWide := lcWide.continues continues
  have startEncoded : start.1.inCall.embLc = start.1.inCall.lc.map dmr.encodeEmblc := by
    obtain ⟨rtpSeq, rtpTs, started, same⟩ := continues
    rw [same]
    exact encoded
  have own : frame.slotBurst = frame.burstType := by simp [HbpFrame.burstType, notHead, notTerm]
  simp only
  split
  case h_1 err failed =>
    obtain ⟨words, mark, rest, built⟩ := hbpVoicePayload_ok documented frame start.1
    rw [built] at failed
    cases failed
  case h_2 gvPayload built =>
    obtain ⟨follow, rest, rfl, counted, length⟩ :=
      hbpVoicePayload_format documented frameWide startWide startEncoded built
    have entry := callEntry_wellFormed cfg wide frameWide frame.callInfo_timeslot.1 0x5d
      (follow :: rest) start.1.inCall (by rw [List.length_cons]; omega)
      (fun _ headerWide => voice_countsRest frame.slotBurst_voice counted headerWide)
    rw [continues.streamId] at entry
    rw [generatedEntries_append, generatePacket_entries]
    exact headers.own entry own notTerm

/-- The terminator of a started call is well formed. -/
theorem sendHbpTerm_formatted (documented : dmr.Documented) (cfg : Config) {shared : Shared}
    (wide : shared.Wide) {frame : HbpFrame} (frameWide : frame.Wide) (clock : Clock) {slot : Slot}
    (lcWide : slot.inCall.LcWide) (term : frame.isTerm = true) :
    Formatted frame slot.inCall.streamId
      (generatedEntries (sendHbpTerm dmr cfg frame clock shared slot).2) := by
  have format := buildIpscVoicePayload_format documented
    (lcWide.truthyOr (frameLc_length documented frameWide)) (.inr rfl) frame
  have entry := callEntry_wellFormed cfg wide frameWide frame.callInfo_timeslot.2 0x5e _ slot.inCall
    format.1 format.2
  have notHead : frame.isHead = false := by
    by_contra head
    rw [HbpFrame.isTerm_of_isHead (by simpa using head)] at term
    cases term
  unfold sendHbpTerm
  rw [generatePacket_entries]
  refine ⟨fun other member => ?_, .inr ⟨0, ?_, fun _ => rfl⟩⟩
  · rwa [List.mem_singleton.mp member]
  · rw [HbpFrame.burstType, notHead, term]
    rfl

/-- A frame that the lock lets in generates well-formed packets only. -/
theorem HbpOutcome.formatted (documented : dmr.Documented) {frame : HbpFrame} (frameWide : frame.Wide)
    {draw : RtpDraw} {clock : Clock} {shared : Shared} (wide : shared.Wide) {slot : Slot}
    {result : Shared × Slot × List Action}
    (outcome : HbpOutcome dmr cfg frame draw clock shared slot result)
    (lcWide : slot.inCall.LcWide)
    (encoded : slot.inCall.embLc = slot.inCall.lc.map dmr.encodeEmblc) :
    Formatted frame result.2.1.inCall.streamId (generatedEntries result.2.2) := by
  have opened : ∀ lc, (openHbpCall dmr frame lc draw (clock 0) shared slot).1.Wide :=
    fun _ => ⟨wide.peerCallType, wide.peerCallCtrl⟩
  cases outcome with
  | foreignTerm | headMerged | headOpened | endedSilent | voiceIgnored =>
      exact formatted_nil frame _
  | headStarted _ head fresh atOnce recorded =>
      subst recorded
      have lcWide := openHbpCall_lcWide dmr frame
        (decodeHbpVoiceLc_length documented frameWide.payload) draw (clock 0) shared slot
      have headers := emitHbpIpscStart_headers documented cfg
        (opened (decodeHbpVoiceLc dmr frame.payload)) frameWide (fun reading => clock (2 + reading))
        lcWide
      rw [(emitHbpIpscStart_continues ..).streamId]
      exact headers.started head
  | ended term started =>
      have continues := generatePacket_inCall cfg shared frame (frame.callInfo ||| endMsk) 0x5e
        ([voiceTerm] ++ buildIpscVoicePayload dmr (truthyOr slot.inCall.lc (frameLc dmr frame))
          voiceTerm) voiceTerm (fun reading => clock (2 + reading)) slot
      have formatted := sendHbpTerm_formatted documented cfg wide frameWide clock lcWide term
      change Formatted frame (sendHbpTerm dmr cfg frame clock shared slot).1.inCall.streamId _
      unfold sendHbpTerm at formatted ⊢
      rw [continues]
      exact formatted
  | voiceContinued notHead notTerm opened =>
      rw [(continueVoice_continues ..).streamId]
      exact continueVoice_formatted documented cfg wide frameWide clock lcWide encoded notHead notTerm
  | voiceOpened _ notHead notTerm closed flow recorded =>
      subst recorded
      have lcWide := openHbpCall_lcWide dmr frame (frameLc_length documented frameWide) draw (clock 0)
        shared slot
      rw [(continueVoice_continues ..).streamId]
      exact continueVoice_formatted documented cfg (opened _) frameWide clock lcWide rfl notHead
        notTerm

/-- An HBP frame generates well-formed packets only. -/
theorem hbpFrameReceived_formatted (documented : dmr.Documented) {frame : HbpFrame}
    (frameWide : frame.Wide) (draw : RtpDraw) (clock : Clock) {shared : Shared} (wide : shared.Wide)
    {slot : Slot} (lcWide : slot.inCall.LcWide)
    (encoded : slot.inCall.embLc = slot.inCall.lc.map dmr.encodeEmblc) :
    let result := hbpFrameReceived dmr cfg frame draw clock shared slot
    Formatted frame result.2.1.inCall.streamId (generatedEntries result.2.2) := by
  obtain ⟨blocked, lock, -, received⟩ := hbpFrameReceived_cases dmr cfg frame draw clock shared slot
  rw [received]
  cases blocked with
  | true => exact formatted_nil frame _
  | false =>
      have outcome := hbpAdmitted_cases dmr cfg frame draw clock shared
        { slot with inCall.lastPkt := clock 0, lock := lock }
      exact outcome.formatted documented frameWide wide lcWide encoded

/-- An accepted frame is a whole DMRD frame as it reads. -/
theorem acceptedFrame_read {registered : Bool} {dmrd : Bytes} {frame : HbpFrame}
    (accepted : acceptedFrame registered dmrd = some frame) :
    dmrdLen ≤ dmrd.length ∧ frame = HbpFrame.read dmrd := by
  unfold acceptedFrame at accepted
  split at accepted
  case isTrue checked =>
    obtain ⟨flags, found, rfl⟩ := Option.map_eq_some_iff.mp accepted
    simp only [Bool.and_eq_true, decide_eq_true_eq] at checked
    refine ⟨checked.2, ?_⟩
    rw [HbpFrame.read, List.getD_eq_getElem?_getD, found]
    rfl
  case isFalse => cases accepted

/-- Only an HBP frame generates packets. -/
theorem slotStep_generates {ts : Timeslot} {shared : Shared} {slot : Slot} {part : SlotEvent}
    (other : ∀ frame draw clock, part ≠ .hbpFrame frame draw clock) :
    generatedEntries (slotStep dmr cfg ts shared slot part).2.2 = [] := by
  apply List.map_eq_nil_iff.mp
  cases part with
  | ipscVoice connected data burstType urandom clock =>
      exact generatedPackets_fromIpsc (ipscVoiceReceived_inbound dmr cfg connected data ts burstType
        urandom clock shared slot).2.2
  | hbpFrame frame draw clock => exact absurd rfl (other frame draw clock)
  | drain clock => exact (drainHbpToIpscQueue_cases cfg clock slot).generated
  | checkCallTimeouts | peerLost | hbpDisconnected => rfl

/-- In every reachable state, what a callback generates for a timeslot comes from an accepted DMRD
frame of the timeslot. Each packet has the length of its kind and a length field that counts what is
behind it, and it reads back as the frame's timeslot, source and talkgroup, the call's stream byte and
the intended burst type. -/
theorem generated_packets_well_formed {dmr : DmrUtils} (documented : dmr.Documented) (cfg : Config)
    (events : List Event) (ts : Timeslot) (event : Event) :
    let tr := ((translator dmr cfg).run Translator.initial events).1
    let next := Translator.step dmr cfg tr event
    entriesAt ts next.2 = [] ∨ ∃ registered dmrd draw clock,
      event = .hbpVoice registered dmrd draw clock ∧ dmrdLen ≤ dmrd.length ∧
        (HbpFrame.read dmrd).timeslot = ts ∧
        Formatted (HbpFrame.read dmrd) (next.1.slot ts).inCall.streamId (entriesAt ts next.2) := by
  intro tr next
  cases seen : event.atSlot ts with
  | none =>
      left
      rw [entriesAt, (Translator.step_unseen dmr cfg tr seen).2]
      rfl
  | some part =>
      obtain ⟨state, actions⟩ := Translator.step_seen dmr cfg tr seen
      have silent : (∀ frame draw clock, part ≠ .hbpFrame frame draw clock) →
          entriesAt ts next.2 = [] := by
        intro other
        rw [entriesAt, actions]
        exact slotStep_generates other
      cases Event.atSlot_cases seen with
      | hbpVoice registered dmrd frame draw clock accepted here =>
          obtain ⟨long, rfl⟩ := acceptedFrame_read accepted
          refine .inr ⟨registered, dmrd, draw, clock, rfl, long, here, ?_⟩
          rw [entriesAt, state, actions]
          exact hbpFrameReceived_formatted documented (acceptedFrame_wide accepted) draw clock
            (translator_run_wide dmr cfg Translator.initial events Translator.initial_wide)
            (slot_lcWide documented cfg events ts) (slot_coherent cfg events ts).inCall.embLc
      | ipscVoice | drain | checkCallTimeouts | peerLost | hbpDisconnected =>
          left
          apply silent
          intro frame draw clock same
          cases same

/-- The first voice frame of a call, after the call's header. -/
theorem generated_packets_well_formed_voice :
    let head := masterHead dmrCodec [9, 9, 9, 9] [0, 0, 7] [0, 0, 1]
    let voice := masterVoice dmrCodec [9, 9, 9, 9] [0, 0, 7] [0, 0, 1] hbpfFrametypeVoicesync
    let tr := ((translator dmrCodec {}).run Translator.initial
      [.hbpVoice true head rtpDraw fun _ => 100]).1
    let next := Translator.step dmrCodec {} tr (.hbpVoice true voice rtpDraw fun _ => 101)
    (entriesAt .ts1 next.2).map (fun entry => entry.packet.length) = [54, 54, 54, 52] ∧
      Formatted (HbpFrame.read voice) (next.1.slot .ts1).inCall.streamId (entriesAt .ts1 next.2) := by
  intro head voice tr next
  have lengths : (entriesAt .ts1 next.2).map (fun entry => entry.packet.length) = [54, 54, 54, 52] := by
    decide +kernel
  refine ⟨lengths, ?_⟩
  rcases generated_packets_well_formed dmrCodec_documented {}
    [.hbpVoice true head rtpDraw fun _ => 100] .ts1 (.hbpVoice true voice rtpDraw fun _ => 101) with
    silent | ⟨registered, dmrd, draw, clock, same, -, -, formatted⟩
  · change (entriesAt .ts1 next.2) = [] at silent
    rw [silent] at lengths
    cases lengths
  · cases same
    exact formatted

end Ipsc2Hbp
