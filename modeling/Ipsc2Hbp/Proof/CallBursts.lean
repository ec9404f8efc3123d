import Ipsc2Hbp.Proof.Dmrd
import Ipsc2Hbp.Proof.GroupVoice

namespace Ipsc2Hbp
open BigEndian

/-- One burst of a voice call. The content is the LC of a header or terminator, and the 19 voice
bytes of any other burst. -/
structure CallBurst where
  timeslot : Timeslot
  burstType : UInt8
  srcSub : Bytes
  dstGroup : Bytes
  content : Bytes
  deriving DecidableEq, Repr

/-- The content of a GROUP_VOICE packet lies behind its burst type. -/
def gvContent (burstType : UInt8) (packet : Bytes) : Bytes :=
  if burstType = voiceHead ∨ burstType = voiceTerm then packet.extract 38 47 else packet.extract 33 52

/-- A GROUP_VOICE packet as `_parse_group_voice_meta` and the field offsets read it. -/
def readPacket (packet : Bytes) : Option CallBurst :=
  match parseGroupVoiceMeta packet with
  | .error _ => none
  | .ok (ts, burstType) =>
      some ⟨ts, burstType, gvSrcSub packet, gvDstGroup packet, gvContent burstType packet⟩

/-- The 19 voice bytes of three voice frames; the bits between and behind the frames are zero. -/
def packVoice (frames : VoiceFrames) : Bytes :=
  bitsToBytes (frames.first ++ [false] ++ frames.second ++ [false] ++ frames.third ++
    [false, false, false])

/-- A built packet reads back as the burst that it was built from. -/
theorem readPacket_buildGv (cfg : Config) {shared : Shared} (wide : shared.Wide)
    {srcSub dstGroup : Bytes} (srcWide : srcSub.length = 3) (dstWide : dstGroup.length = 3)
    (callInfo rtpPt streamId burstType : UInt8) (rtpSeq : UInt16) (rtpTs : UInt32) (rest : Bytes) :
    readPacket (buildGv cfg shared srcSub dstGroup callInfo (rtpHeader rtpPt rtpSeq rtpTs)
        (burstType :: rest) streamId) =
      some ⟨if callInfo &&& tsCallMsk ≠ 0 then .ts2 else .ts1, burstType, srcSub, dstGroup,
        if burstType = voiceHead ∨ burstType = voiceTerm then rest.extract 7 16
          else rest.extract 2 21⟩ := by
  obtain ⟨m0, m1, m2, m3, s0, s1, s2, d0, d1, d2, t, c0, c1, c2, c3, rfl, rfl, -, -, layout⟩ :=
    buildGv_layout cfg wide srcWide dstWide callInfo rtpPt streamId rtpSeq rtpTs (burstType :: rest)
  rw [layout, natToBytes_two, natToBytes_four]
  rfl

/-- The parts of a voice burst around its middle field. -/
theorem voiceBurst_slices {first left middle right third : Bits} (firstWide : first.length = 72)
    (leftWide : left.length = 36) (middleWide : middle.length = 48) (rightWide : right.length = 36)
    (thirdWide : third.length = 72) :
    let bits := first ++ left ++ middle ++ right ++ third
    bits.extract 0 72 = first ∧ bits.extract 72 108 = left ∧ bits.extract 156 192 = right ∧
      bits.extract 192 264 = third := by
  intro bits
  have whole : bits = first ++ (left ++ (middle ++ (right ++ third))) := by
    simp only [bits, List.append_assoc]
  refine ⟨extract_middle [] _ whole rfl (by omega), extract_middle first _ whole firstWide (by omega),
    extract_middle (first ++ left ++ middle) third ?_ ?_ (by omega),
    extract_middle (first ++ left ++ middle ++ right) [] ?_ ?_ (by omega)⟩
  all_goals simp only [whole, List.append_assoc, List.append_nil, List.length_append]
  all_goals omega

/-- A sent voice frame is converted back to its bits. -/
theorem convert_ambe49To72 {dmr : DmrUtils} (inverts : dmr.Inverts) {ambe : Bits}
    (ambeWide : ambe.length = 49) : dmr.convert72BitTo49BitAMBE (ambe49To72 dmr ambe) = ambe :=
  inverts.convert_ambe ambe ambeWide

/-- The voice frames of a sent payload are the ones that were put in. -/
theorem extractAmbeFromDmrd_voicePayload {dmr : DmrUtils} (documented : dmr.Documented)
    (inverts : dmr.Inverts) {ambe : Bytes} (ambeWide : ambe.length = 19) {embed : Bits}
    (embedWide : embed.length = 48) :
    extractAmbeFromDmrd dmr (voicePayload dmr ambe embed) = packVoice (voiceFrames ambe) := by
  obtain ⟨first, second, third⟩ := voiceFrames_length ambeWide
  have firstWide := ambe49To72_length documented first
  have secondWide := ambe49To72_length documented second
  have thirdWide := ambe49To72_length documented third
  have leftWide : ((ambe49To72 dmr (voiceFrames ambe).second).take 36).length = 36 := by
    rw [List.length_take, secondWide]
    rfl
  have rightWide : ((ambe49To72 dmr (voiceFrames ambe).second).drop 36).length = 36 := by
    rw [List.length_drop, secondWide]
  obtain ⟨one, left, right, four⟩ :=
    voiceBurst_slices firstWide leftWide embedWide rightWide thirdWide
  unfold extractAmbeFromDmrd packVoice
  simp only
  rw [voicePayload_bits documented ambeWide embedWide, one, left, right, four, List.take_append_drop,
    convert_ambe49To72 inverts first, convert_ambe49To72 inverts second,
    convert_ambe49To72 inverts third]

/-- The LC of a sent header is decoded again. -/
theorem decodeHbpVoiceLc_lcPayload {dmr : DmrUtils} (documented : dmr.Documented)
    (inverts : dmr.Inverts) {lc : Bytes} (lcWide : lc.length = 9) :
    decodeHbpVoiceLc dmr (lcPayload dmr (dmr.encodeHeaderLc lc) dmr.slotTypeVoiceLcHead) = lc := by
  have codewordWide := documented.encodeHeaderLc_length lc lcWide
  have slotTypeWide := documented.slotTypeVoiceLcHead_length
  have syncWide := documented.bsDataSync_length
  have bits := lcPayload_bits documented codewordWide slotTypeWide
  have decoded := inverts.decode_header lc lcWide
  generalize dmr.encodeHeaderLc lc = codeword at *
  have front : (bytesToBits (lcPayload dmr codeword dmr.slotTypeVoiceLcHead)).extract 0 98 =
      codeword.take 98 := by
    refine extract_middle [] (dmr.slotTypeVoiceLcHead.take 10 ++ (dmr.bsDataSync ++
      (dmr.slotTypeVoiceLcHead.drop 10 ++ codeword.drop 98))) ?_ rfl (by rw [List.length_take]; omega)
    simp only [bits, List.append_assoc, List.nil_append]
  have back : (bytesToBits (lcPayload dmr codeword dmr.slotTypeVoiceLcHead)).extract 166 264 =
      codeword.drop 98 := by
    refine extract_middle (codeword.take 98 ++ dmr.slotTypeVoiceLcHead.take 10 ++ dmr.bsDataSync ++
      dmr.slotTypeVoiceLcHead.drop 10) [] ?_ ?_ (by rw [List.length_drop]; omega)
    · simp only [bits, List.append_assoc, List.append_nil]
    · simp only [List.length_append, List.length_take, List.length_drop]
      omega
  unfold decodeHbpVoiceLc
  simp only
  rw [front, back, List.take_append_drop, decoded, bitsToBytes_bytesToBits]

/-- The burst type of the packet that a frame becomes. -/
def HbpFrame.burstType (frame : HbpFrame) : UInt8 :=
  if frame.isHead then voiceHead else if frame.isTerm then voiceTerm else frame.slotBurst

/-- The LC of a header and the voice bytes of a voice frame; a terminator's LC is not read. -/
def HbpFrame.content (dmr : DmrUtils) (frame : HbpFrame) : Bytes :=
  if frame.isHead then decodeHbpVoiceLc dmr frame.payload
  else if frame.isTerm then [] else extractAmbeFromDmrd dmr frame.payload

/-- The burst that a frame carries. -/
def HbpFrame.burst (dmr : DmrUtils) (frame : HbpFrame) : CallBurst :=
  ⟨frame.timeslot, frame.burstType, frame.srcSub, frame.dstGroup, frame.content dmr⟩

/-- A DMRD frame as `hbp_voice_received` reads it. -/
structure DmrdReading where
  whole : Bool
  stream : Bytes
  burst : CallBurst

def readDmrd (dmr : DmrUtils) (dmrd : Bytes) : DmrdReading where
  whole := dmrdLen ≤ dmrd.length
  stream := (HbpFrame.read dmrd).stream
  burst := (HbpFrame.read dmrd).burst dmr

/-- A frame whose fields are known reads back as they say. -/
theorem DmrdFields.reading {dmrd srcSub dstGroup streamId payload : Bytes} {flags : UInt8}
    (fields : DmrdFields dmrd srcSub dstGroup flags streamId payload) (dmr : DmrUtils) :
    readDmrd dmr dmrd =
      ⟨true, streamId, HbpFrame.burst dmr ⟨srcSub, dstGroup, flags, streamId, payload⟩⟩ := by
  rw [readDmrd, fields.read, fields.length]
  rfl

/-- The voice burst type of a timeslot. -/
def slotVoice (ts : Timeslot) : UInt8 := if ts = .ts2 then slot2Voice else slot1Voice

/-- A frame is a header of the timeslot. -/
structure HbpFrame.HeadOn (ts : Timeslot) (frame : HbpFrame) : Prop where
  timeslot : frame.timeslot = ts
  isHead : frame.isHead = true

/-- A frame is a terminator of the timeslot. -/
structure HbpFrame.TermOn (ts : Timeslot) (frame : HbpFrame) : Prop where
  timeslot : frame.timeslot = ts
  isHead : frame.isHead = false
  isTerm : frame.isTerm = true

/-- A frame is voice of the timeslot. -/
structure HbpFrame.VoiceOn (ts : Timeslot) (frame : HbpFrame) : Prop where
  timeslot : frame.timeslot = ts
  isHead : frame.isHead = false
  isTerm : frame.isTerm = false

theorem HbpFrame.headOn {frame : HbpFrame} {ts : Timeslot}
    (flags : frame.flags = timeslotFlag ts ||| (hbpfFrametypeDatasync ||| hbpfSltVhead)) :
    frame.HeadOn ts := by
  constructor <;> simp only [HbpFrame.timeslot, HbpFrame.isHead, frameType, dtype, flags] <;>
    cases ts <;> decide

theorem HbpFrame.termOn {frame : HbpFrame} {ts : Timeslot}
    (flags : frame.flags = timeslotFlag ts ||| (hbpfFrametypeDatasync ||| hbpfSltVterm)) :
    frame.TermOn ts := by
  constructor <;> simp only [HbpFrame.timeslot, HbpFrame.isHead, HbpFrame.isTerm, frameType, dtype, flags] <;>
    cases ts <;> decide

theorem HbpFrame.voiceOn {frame : HbpFrame} {ts : Timeslot} {pos : Nat} (small : pos < 6)
    (flags : frame.flags = timeslotFlag ts ||| voiceFlags pos) : frame.VoiceOn ts := by
  constructor <;> simp only [HbpFrame.timeslot, HbpFrame.isHead, HbpFrame.isTerm, frameType, dtype, flags] <;>
    cases ts <;> interval_cases pos <;> decide

theorem HbpFrame.HeadOn.burst {frame : HbpFrame} {ts : Timeslot} (headOn : frame.HeadOn ts)
    (dmr : DmrUtils) : frame.burst dmr =
      ⟨ts, voiceHead, frame.srcSub, frame.dstGroup, decodeHbpVoiceLc dmr frame.payload⟩ := by
  simp only [HbpFrame.burst, burstType, content, headOn.timeslot, headOn.isHead, if_true]

theorem HbpFrame.TermOn.burst {frame : HbpFrame} {ts : Timeslot} (termOn : frame.TermOn ts)
    (dmr : DmrUtils) : frame.burst dmr = ⟨ts, voiceTerm, frame.srcSub, frame.dstGroup, []⟩ := by
  simp only [HbpFrame.burst, burstType, content, termOn.timeslot, termOn.isHead, termOn.isTerm,
    Bool.false_eq_true, if_false, if_true]

theorem HbpFrame.VoiceOn.burst {frame : HbpFrame} {ts : Timeslot} (voiceOn : frame.VoiceOn ts)
    (dmr : DmrUtils) : frame.burst dmr =
      ⟨ts, slotVoice ts, frame.srcSub, frame.dstGroup, extractAmbeFromDmrd dmr frame.payload⟩ := by
  simp only [HbpFrame.burst, burstType, content, slotBurst, slotVoice, voiceOn.timeslot,
    voiceOn.isHead, voiceOn.isTerm, Bool.false_eq_true, if_false]

/-- Every frame is of one of the three kinds. -/
theorem HbpFrame.kinds (frame : HbpFrame) :
    frame.HeadOn frame.timeslot ∨ frame.TermOn frame.timeslot ∨ frame.VoiceOn frame.timeslot := by
  cases head : frame.isHead with
  | true => exact .inl ⟨rfl, head⟩
  | false =>
      cases term : frame.isTerm with
      | true => exact .inr (.inl ⟨rfl, head, term⟩)
      | false => exact .inr (.inr ⟨rfl, head, term⟩)

/-- The burst of a frame tells its kind. -/
theorem HbpFrame.kind_of_burst {frame : HbpFrame} {dmr : DmrUtils} {ts : Timeslot}
    {burstType : UInt8} {srcSub dstGroup content : Bytes}
    (burst : frame.burst dmr = ⟨ts, burstType, srcSub, dstGroup, content⟩) :
    (burstType = voiceHead → frame.HeadOn ts) ∧ (burstType = voiceTerm → frame.TermOn ts) ∧
      (burstType = slotVoice ts → frame.VoiceOn ts) := by
  have apart : voiceHead ≠ voiceTerm ∧ voiceHead ≠ slotVoice ts ∧ voiceTerm ≠ slotVoice ts := by
    cases ts <;> decide
  have kinds := frame.kinds
  obtain ⟨rfl, -⟩ := CallBurst.mk.inj burst
  rcases kinds with head | term | voice
  · obtain ⟨-, rfl, -⟩ := CallBurst.mk.inj ((head.burst dmr).symm.trans burst)
    exact ⟨fun _ => head, fun same => absurd same apart.1, fun same => absurd same apart.2.1⟩
  · obtain ⟨-, rfl, -⟩ := CallBurst.mk.inj ((term.burst dmr).symm.trans burst)
    exact ⟨fun same => absurd same.symm apart.1, fun _ => term, fun same => absurd same apart.2.2⟩
  · obtain ⟨-, rfl, -⟩ := CallBurst.mk.inj ((voice.burst dmr).symm.trans burst)
    exact ⟨fun same => absurd same.symm apart.2.1, fun same => absurd same.symm apart.2.2, fun _ => voice⟩

end Ipsc2Hbp
