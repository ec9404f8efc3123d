import Ipsc2Hbp.Construction.DmrCodec
import Ipsc2Hbp.Construction.Packets
import Ipsc2Hbp.Proof.Forward
import Ipsc2Hbp.Proof.PacketFormat

namespace Ipsc2Hbp
open BigEndian

/-- Packed voice frames are read back. -/
theorem voiceFrames_packVoice {frames : VoiceFrames} (first : frames.first.length = 49)
    (second : frames.second.length = 49) (third : frames.third.length = 49) :
    voiceFrames (packVoice frames) = frames := by
  have whole : 8 ∣ (frames.first ++ [false] ++ frames.second ++ [false] ++ frames.third ++
      [false, false, false]).length := by
    simp only [List.length_append, first, second, third]
    decide
  obtain ⟨one, two, three⟩ := frames
  unfold voiceFrames packVoice
  rw [bytesToBits_bitsToBytes _ whole]
  congr 1
  · exact extract_middle [] ([false] ++ two ++ [false] ++ three ++ [false, false, false])
      (by simp only [List.append_assoc, List.nil_append]) rfl (by rw [first])
  · exact extract_middle (one ++ [false]) ([false] ++ three ++ [false, false, false])
      (by simp only [List.append_assoc]) (by rw [List.length_append, first]; rfl) (by rw [second])
  · exact extract_middle (one ++ [false] ++ two ++ [false]) [false, false, false]
      (by simp only [List.append_assoc])
      (by simp only [List.length_append, first, second]; rfl) (by rw [third])

/-- The voice of a DMRD payload is that of its three frames. -/
theorem packVoice_extractAmbe {dmr : DmrUtils} (documented : dmr.Documented) {payload : Bytes}
    (payloadWide : payload.length = 33) :
    packVoice (voiceFrames (extractAmbeFromDmrd dmr payload)) = extractAmbeFromDmrd dmr payload := by
  have slices (start stop : Nat) (ordered : start ≤ stop) (inside : stop ≤ 264) :
      ((bytesToBits payload).extract start stop).length = stop - start := by
    rw [extract_length, bytesToBits_length, payloadWide]
    omega
  have middle : ((bytesToBits payload).extract 72 108 ++
      (bytesToBits payload).extract 156 192).length = 72 := by
    rw [List.length_append, slices _ _ (by decide) (by decide), slices _ _ (by decide) (by decide)]
  have packed : extractAmbeFromDmrd dmr payload = packVoice
      ⟨dmr.convert72BitTo49BitAMBE ((bytesToBits payload).extract 0 72),
        dmr.convert72BitTo49BitAMBE
          ((bytesToBits payload).extract 72 108 ++ (bytesToBits payload).extract 156 192),
        dmr.convert72BitTo49BitAMBE ((bytesToBits payload).extract 192 264)⟩ := rfl
  rw [packed, voiceFrames_packVoice
    (documented.convert72_length _ (slices 0 72 (by decide) (by decide)))
    (documented.convert72_length _ middle)
    (documented.convert72_length _ (slices 192 264 (by decide) (by decide)))]

/-- A GROUP_VOICE packet on its way to a translator whose client is connected, with what its callback
reads from outside. -/
structure Arrival where
  data : Bytes
  urandom : StreamId
  clock : Clock

/-- `_on_group_voice` passes on a packet whose timeslot and burst type it can read. -/
def Arrival.event (arrival : Arrival) : Option Event :=
  match parseGroupVoiceMeta arrival.data with
  | .ok (ts, burstType) =>
      some (.ipscVoice true arrival.data ts burstType arrival.urandom arrival.clock)
  | .error _ => none

section Arrivals
variable {ts : Timeslot} {srcSub dstGroup : Bytes}

/-- What a packet with a reading shows. -/
theorem readPacket_some {data content : Bytes} {burstType : UInt8}
    (reads : readPacket data = some ⟨ts, burstType, srcSub, dstGroup, content⟩) :
    parseGroupVoiceMeta data = .ok (ts, burstType) ∧ gvSrcSub data = srcSub ∧
      gvDstGroup data = dstGroup ∧ gvContent burstType data = content := by
  unfold readPacket at reads
  split at reads
  case h_1 => cases reads
  case h_2 ts burstType parsed =>
    obtain ⟨rfl, rfl, rfl, rfl, rfl⟩ := CallBurst.mk.inj (Option.some.inj reads)
    exact ⟨parsed, rfl, rfl, rfl⟩

/-- An arrival has one of the listed readings. -/
theorem arrival_reads {arrivals : List Arrival} {readings : List (Option CallBurst)}
    (reads : arrivals.map (readPacket ∘ Arrival.data) = readings) {arrival : Arrival}
    (member : arrival ∈ arrivals) : readPacket arrival.data ∈ readings :=
  reads ▸ List.mem_map_of_mem member

/-- Arrivals that read as bursts of a call are packets of the call. -/
theorem arrivals_packets (burstType : UInt8) (arrivals : List Arrival)
    (each : ∀ arrival ∈ arrivals, ∃ content,
      readPacket arrival.data = some ⟨ts, burstType, srcSub, dstGroup, content⟩) :
    ∃ packets : List (CallPacket ts srcSub dstGroup),
      packets.map CallPacket.event = arrivals.filterMap Arrival.event ∧
      packets.map CallPacket.data = arrivals.map Arrival.data ∧
      packets.map CallPacket.urandom = arrivals.map Arrival.urandom ∧
      ∀ packet ∈ packets, packet.burstType = burstType := by
  induction arrivals with
  | nil => exact ⟨[], rfl, rfl, rfl, by simp⟩
  | cons arrival rest ih =>
      obtain ⟨packets, events, data, draws, types⟩ :=
        ih fun other member => each other (List.mem_cons_of_mem _ member)
      obtain ⟨content, reads⟩ := each arrival List.mem_cons_self
      obtain ⟨parsed, source, talkgroup, -⟩ := readPacket_some reads
      let packet : CallPacket ts srcSub dstGroup :=
        ⟨arrival.data, burstType, arrival.urandom, arrival.clock, parsed, source, talkgroup⟩
      have event : arrival.event = some packet.event := by
        rw [Arrival.event, parsed]
        rfl
      refine ⟨packet :: packets, ?_, ?_, ?_, ?_⟩
      · rw [List.map_cons, events, List.filterMap_cons_some event]
      · rw [List.map_cons, data, List.map_cons]
      · rw [List.map_cons, draws, List.map_cons]
      · intro other member
        rcases List.mem_cons.mp member with rfl | later
        · rfl
        · exact types other later

end Arrivals

/-- A whole call of DMRD frames of one stream: one or more headers, one or more voice frames, and a
terminator. -/
structure WholeHbpCall (dmr : DmrUtils) (cfg : Config) (ts : Timeslot) (srcSub dstGroup : Bytes) where
  stream : Bytes
  lc : Bytes
  head : Delivery cfg
  repeats : List (Delivery cfg)
  voices : List (Delivery cfg)
  term : Delivery cfg
  head_reads : ∀ delivery ∈ head :: repeats, readDmrd dmr delivery.dmrd =
    ⟨true, stream, ⟨ts, voiceHead, srcSub, dstGroup, lc⟩⟩
  voices_some : voices ≠ []
  voices_read : ∀ delivery ∈ voices, ∃ ambe, readDmrd dmr delivery.dmrd =
    ⟨true, stream, callVoice ts srcSub dstGroup ambe⟩
  term_reads : readDmrd dmr term.dmrd = ⟨true, stream, callTerm ts srcSub dstGroup []⟩

namespace WholeHbpCall
variable {dmr : DmrUtils} {cfg : Config} {ts : Timeslot} {srcSub dstGroup : Bytes}

/-- The callbacks of a call in order. -/
def events (call : WholeHbpCall dmr cfg ts srcSub dstGroup) : List Event :=
  (call.head :: call.repeats ++ (call.voices ++ [call.term])).map Delivery.event

/-- The LC of a call has nine bytes. -/
theorem lcWide (call : WholeHbpCall dmr cfg ts srcSub dstGroup) (documented : dmr.Documented) :
    call.lc.length = 9 := by
  obtain ⟨wide, -, burst, -⟩ :=
    call.head.step_eq (call.head_reads call.head List.mem_cons_self) Translator.initial
  have head := (HbpFrame.kind_of_burst burst).1 rfl
  rw [head.burst] at burst
  obtain ⟨-, -, -, -, spelled⟩ := CallBurst.mk.inj burst
  rw [← spelled]
  exact decodeHbpVoiceLc_length documented wide.payload

/-- The voice of a frame of a call is that of its payload. -/
theorem voice_burst (call : WholeHbpCall dmr cfg ts srcSub dstGroup) {delivery : Delivery cfg}
    (member : delivery ∈ call.voices) : ∃ payload : Bytes, payload.length = 33 ∧
      (readDmrd dmr delivery.dmrd).burst =
        callVoice ts srcSub dstGroup (extractAmbeFromDmrd dmr payload) := by
  obtain ⟨ambe, reads⟩ := call.voices_read delivery member
  obtain ⟨wide, -, burst, -⟩ := delivery.step_eq reads Translator.initial
  have voice := (HbpFrame.kind_of_burst burst).2.2 rfl
  refine ⟨(HbpFrame.read delivery.dmrd).payload, wide.payload, ?_⟩
  rw [voice.burst] at burst
  obtain ⟨-, -, -, -, rfl⟩ := CallBurst.mk.inj burst
  rw [reads]

end WholeHbpCall

/-- A voice packet that reads as the voice of a payload is long enough to be converted back. -/
theorem CallPacket.spoken {dmr : DmrUtils} (documented : dmr.Documented) {ts : Timeslot}
    {srcSub dstGroup : Bytes} (packet : CallPacket ts srcSub dstGroup) {payload : Bytes}
    (payloadWide : payload.length = 33)
    (reads : readPacket packet.data =
      some (callVoice ts srcSub dstGroup (extractAmbeFromDmrd dmr payload))) :
    52 ≤ packet.data.length ∧ packet.voice = extractAmbeFromDmrd dmr payload := by
  have apart : ¬(slotVoice ts = voiceHead ∨ slotVoice ts = voiceTerm) := by cases ts <;> decide
  obtain ⟨-, -, -, content⟩ := readPacket_some reads
  rw [gvContent, if_neg apart] at content
  have wide := extractAmbeFromDmrd_length documented payloadWide
  rw [← content, extract_length] at wide
  refine ⟨by omega, ?_⟩
  rw [CallPacket.voice, content, packVoice_extractAmbe documented payloadWide]

/-- The arrivals of a call from HBP are a call on IPSC with the same voice. -/
theorem WholeHbpCall.arrives {dmr : DmrUtils} (documented : dmr.Documented) {cfg : Config}
    {ts : Timeslot} {srcSub dstGroup : Bytes} (call : WholeHbpCall dmr cfg ts srcSub dstGroup)
    {arrivals : List Arrival}
    (reads : arrivals.map (readPacket ∘ Arrival.data) =
      List.replicate cfg.headerCount (some ⟨ts, voiceHead, srcSub, dstGroup, call.lc⟩) ++
        (call.voices.map (fun delivery => some (readDmrd dmr delivery.dmrd).burst) ++
          [some ⟨ts, voiceTerm, srcSub, dstGroup, call.lc⟩])) :
    ∃ whole : WholeCall ts srcSub dstGroup,
      whole.events = arrivals.filterMap Arrival.event ∧
      whole.head.urandom ∈ arrivals.head?.map Arrival.urandom ∧
      whole.repeats.length + 1 = cfg.headerCount ∧
      whole.voices.map (fun packet => callVoice ts srcSub dstGroup packet.voice) =
        call.voices.map fun delivery => (readDmrd dmr delivery.dmrd).burst := by
  obtain ⟨heads, behind, rfl, headReads, reads⟩ := List.map_eq_append_iff.mp reads
  obtain ⟨voices, behind, rfl, voiceReads, reads⟩ := List.map_eq_append_iff.mp reads
  obtain ⟨last, behind, rfl, lastReads, reads⟩ := List.map_eq_cons_iff.mp reads
  obtain rfl := List.map_eq_nil_iff.mp reads
  obtain ⟨headPackets, headEvents, -, headDraws, headTypes⟩ :
      ∃ packets : List (CallPacket ts srcSub dstGroup), _ :=
    arrivals_packets voiceHead heads fun arrival member =>
      ⟨call.lc, List.eq_of_mem_replicate (arrival_reads headReads member)⟩
  obtain ⟨voicePackets, voiceEvents, voiceData, -, voiceTypes⟩ :
      ∃ packets : List (CallPacket ts srcSub dstGroup), _ :=
    arrivals_packets (slotVoice ts) voices fun arrival member => by
      obtain ⟨delivery, inside, same⟩ := List.mem_map.mp (arrival_reads voiceReads member)
      obtain ⟨ambe, reads⟩ := call.voices_read delivery inside
      exact ⟨ambe, by rw [← same, reads]; rfl⟩
  -- each voice packet holds the voice of its frame
  have readings : voicePackets.map (fun packet => readPacket packet.data) =
      call.voices.map fun delivery => some (readDmrd dmr delivery.dmrd).burst := by
    have listed := congrArg (List.map readPacket) voiceData
    rw [List.map_map, List.map_map, voiceReads] at listed
    exact listed
  have spoken (packet : CallPacket ts srcSub dstGroup) (member : packet ∈ voicePackets) :
      52 ≤ packet.data.length ∧
        readPacket packet.data = some (callVoice ts srcSub dstGroup packet.voice) := by
    have listed : readPacket packet.data ∈ voicePackets.map fun packet => readPacket packet.data :=
      List.mem_map_of_mem member
    rw [readings] at listed
    obtain ⟨delivery, inside, same⟩ := List.mem_map.mp listed
    obtain ⟨payload, payloadWide, burst⟩ := call.voice_burst inside
    rw [burst] at same
    obtain ⟨long, voice⟩ := packet.spoken documented payloadWide same.symm
    exact ⟨long, by rw [voice, same]⟩
  have voiceCount := congrArg List.length readings
  have headCount := congrArg List.length headReads
  have drawCount := congrArg List.length headDraws
  simp only [List.length_map, List.length_replicate] at voiceCount headCount drawCount
  have atLeast := cfg.headerCount_bounds.1
  obtain ⟨head, repeats, rfl⟩ := List.exists_cons_of_length_pos (show 0 < headPackets.length by omega)
  obtain ⟨first, others, rfl⟩ := List.exists_cons_of_length_pos (show 0 < heads.length by omega)
  obtain ⟨parsed, source, talkgroup, -⟩ := readPacket_some lastReads
  have ends : last.event = some (.ipscVoice true last.data ts voiceTerm last.urandom last.clock) := by
    rw [Arrival.event, parsed]
  have events : (first :: others ++ (voices ++ [last])).filterMap Arrival.event =
      (head :: repeats).map CallPacket.event ++ (voicePackets.map CallPacket.event ++
        [.ipscVoice true last.data ts voiceTerm last.urandom last.clock]) := by
    rw [List.filterMap_append, List.filterMap_append, ← headEvents, ← voiceEvents,
      List.filterMap_cons_some ends]
    rfl
  refine ⟨⟨head, repeats, voicePackets,
    ⟨last.data, voiceTerm, last.urandom, last.clock, parsed, source, talkgroup⟩,
    headTypes head List.mem_cons_self,
    fun packet member => headTypes packet (List.mem_cons_of_mem _ member), ?_, fun packet member => ?_,
    fun packet member => (spoken packet member).1, rfl⟩, ?_, ?_, ?_, ?_⟩
  · rintro rfl
    exact call.voices_some (List.length_eq_zero_iff.mp voiceCount.symm)
  · rw [voiceTypes packet member, slotVoice]
    split
    · exact .inr rfl
    · exact .inl rfl
  · exact events.symm
  · exact congrArg some (List.cons.inj headDraws).1.symm
  · exact drawCount.trans headCount
  · refine List.map_injective_iff.mpr (Option.some_injective _) ?_
    rw [List.map_map, List.map_map]
    refine Eq.trans (List.map_congr_left fun packet member => ?_) readings
    exact (spoken packet member).2.symm

section Relayed
variable {dmr : DmrUtils} (documented : dmr.Documented) {cfg : Config} {ts : Timeslot}
  {srcSub dstGroup : Bytes} (call : WholeHbpCall dmr cfg ts srcSub dstGroup)
include documented

/-- Without pacing a whole call from HBP is a call on IPSC. -/
theorem WholeHbpCall.returned (flow : cfg.legacyFlow = false) (unpaced : cfg.hbpToIpscPacing = false) :
    packetReadings ((translator dmr cfg).run Translator.initial call.events).2 =
      List.replicate cfg.headerCount (some ⟨ts, voiceHead, srcSub, dstGroup, call.lc⟩) ++
        (call.voices.map (fun delivery => some (readDmrd dmr delivery.dmrd).burst) ++
          [some ⟨ts, voiceTerm, srcSub, dstGroup, call.lc⟩]) := by
  obtain ⟨next, rest, spoken⟩ := List.exists_cons_of_ne_nil call.voices_some
  have returned := call_returned documented unpaced flow (call.lcWide documented) call.head call.repeats
    next rest call.term call.head_reads (by rw [← spoken]; exact call.voices_read) call.term_reads
  rw [← spoken] at returned
  exact returned

/-- The second translator makes one stream of the arrivals of a call. -/
theorem WholeHbpCall.relayed (inverts : dmr.Inverts) {back : Config}
    (backFlow : back.legacyFlow = false) {arrivals : List Arrival}
    (reads : arrivals.map (readPacket ∘ Arrival.data) =
      List.replicate cfg.headerCount (some ⟨ts, voiceHead, srcSub, dstGroup, call.lc⟩) ++
        (call.voices.map (fun delivery => some (readDmrd dmr delivery.dmrd).burst) ++
          [some ⟨ts, voiceTerm, srcSub, dstGroup, call.lc⟩])) :
    ∃ draw ∈ arrivals.head?.map Arrival.urandom,
      frameReadings dmr ((translator dmr back).run Translator.initial
          (arrivals.filterMap Arrival.event)).2 =
        List.replicate cfg.headerCount ⟨true, draw.val, callHead dmr ts srcSub dstGroup⟩ ++
          (call.voices.map (fun delivery => ⟨true, draw.val, (readDmrd dmr delivery.dmrd).burst⟩) ++
            [⟨true, draw.val, callTerm ts srcSub dstGroup []⟩]) := by
  obtain ⟨whole, events, first, heads, voices⟩ := call.arrives documented reads
  have forwarded := call_forwarded documented inverts backFlow whole
  refine ⟨whole.head.urandom, first, ?_⟩
  have readings := congrArg (List.map (DmrdReading.mk true whole.head.urandom.val)) voices
  rw [List.map_map, List.map_map] at readings
  rw [← events, forwarded, ← heads, List.replicate_succ, List.cons_append, List.map_const']
  exact congrArg (fun middle => _ :: (_ ++ (middle ++ _))) readings

end Relayed

/-- A whole call from HBP that goes through two translators comes out with its timeslot, source,
talkgroup and voice, as one stream with the configured number of headers. -/
theorem hbp_calls_round_trip {dmr : DmrUtils} (documented : dmr.Documented) (inverts : dmr.Inverts)
    {cfg back : Config} (flow : cfg.legacyFlow = false) (unpaced : cfg.hbpToIpscPacing = false)
    (backFlow : back.legacyFlow = false) {ts : Timeslot} {srcSub dstGroup : Bytes}
    (call : WholeHbpCall dmr cfg ts srcSub dstGroup) (arrivals : List Arrival)
    (arrived : arrivals.map Arrival.data =
      sentPackets ((translator dmr cfg).run Translator.initial call.events).2) :
    ∃ draw ∈ arrivals.head?.map Arrival.urandom,
      frameReadings dmr ((translator dmr back).run Translator.initial
          (arrivals.filterMap Arrival.event)).2 =
        List.replicate cfg.headerCount ⟨true, draw.val, callHead dmr ts srcSub dstGroup⟩ ++
          (call.voices.map (fun delivery => ⟨true, draw.val, (readDmrd dmr delivery.dmrd).burst⟩) ++
            [⟨true, draw.val, callTerm ts srcSub dstGroup []⟩]) := by
  have returned := call.returned documented flow unpaced
  rw [packetReadings, ← arrived, List.map_map] at returned
  exact call.relayed documented inverts backFlow returned

deriving instance DecidableEq for DmrdReading

/-- The configuration of the first translator. -/
def relayConfig : Config := { hbpToIpscPacing := false, hbpToIpscHeaderRepeats := 3 }

def relayDelivery (dmrd : Bytes) (time : Nat) : Delivery relayConfig :=
  ⟨dmrd, rtpDraw, fun _ => 10 + time, fun _ => by
    have late : relayConfig.holdoff ≤ 10 := by decide +kernel
    exact late.trans (by simp)⟩

/-- A call with two headers and two voice frames. -/
def relayCall : WholeHbpCall dmrCodec relayConfig .ts1 [0, 0, 7] [0, 0, 1] where
  stream := [9, 9, 9, 9]
  lc := [0, 0, 0, 0, 0, 1, 0, 0, 7]
  head := relayDelivery (masterHead dmrCodec [9, 9, 9, 9] [0, 0, 7] [0, 0, 1]) 0
  repeats := [relayDelivery (masterHead dmrCodec [9, 9, 9, 9] [0, 0, 7] [0, 0, 1]) 1]
  voices := [
    relayDelivery (masterVoice dmrCodec [9, 9, 9, 9] [0, 0, 7] [0, 0, 1] hbpfFrametypeVoicesync) 2,
    relayDelivery (masterVoice dmrCodec [9, 9, 9, 9] [0, 0, 7] [0, 0, 1] 4) 3]
  term := relayDelivery (masterTerm dmrCodec [9, 9, 9, 9] [0, 0, 7] [0, 0, 1]) 4
  head_reads := by simp only [List.forall_mem_cons]; decide +kernel
  voices_some := by simp
  voices_read := by
    simp only [List.forall_mem_cons]
    exact ⟨⟨List.replicate 19 0, by decide +kernel⟩, ⟨List.replicate 19 0, by decide +kernel⟩, by simp⟩
  term_reads := by decide +kernel

/-- The packets of the call reach the second translator. -/
def relayArrivals : List Arrival :=
  (sentPackets ((translator dmrCodec relayConfig).run Translator.initial relayCall.events).2).map
    fun packet => ⟨packet, firstDraw, fun _ => 200⟩

theorem hbp_calls_round_trip_relay :
    ∃ draw ∈ relayArrivals.head?.map Arrival.urandom,
      frameReadings dmrCodec ((translator dmrCodec {}).run Translator.initial
          (relayArrivals.filterMap Arrival.event)).2 =
        List.replicate relayConfig.headerCount
            ⟨true, draw.val, callHead dmrCodec .ts1 [0, 0, 7] [0, 0, 1]⟩ ++
          (relayCall.voices.map (fun delivery =>
              ⟨true, draw.val, (readDmrd dmrCodec delivery.dmrd).burst⟩) ++
            [⟨true, draw.val, callTerm .ts1 [0, 0, 7] [0, 0, 1] []⟩]) :=
  hbp_calls_round_trip dmrCodec_documented dmrCodec_inverts rfl rfl rfl relayCall relayArrivals
    (by rw [relayArrivals, List.map_map]; exact List.map_id _)

end Ipsc2Hbp
