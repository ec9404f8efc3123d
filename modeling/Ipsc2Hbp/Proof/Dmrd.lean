import Ipsc2Hbp.Proof.SlotStep

namespace Ipsc2Hbp
open BigEndian

/-- The DMRD frames that a log sends to the master. -/
def sentDmrd (log : List Action) : List Bytes :=
  log.filterMap fun action => match action with
    | .sendDmrd dmrd => some dmrd
    | _ => none

@[simp] theorem sentDmrd_append (first second : List Action) :
    sentDmrd (first ++ second) = sentDmrd first ++ sentDmrd second := List.filterMap_append

/-- The HBP side sends no frame. -/
theorem sentDmrd_fromHbp {dmr : DmrUtils} {actions : List Action}
    (fromHbp : ∀ action ∈ actions, action.FromHbp dmr) : sentDmrd actions = [] := by
  rw [sentDmrd, List.filterMap_eq_nil_iff]
  intro action member
  have barred := fromHbp action member
  cases action <;> first | rfl | exact barred.elim

/-- The fields of a DMRD frame. -/
def HbpFrame.read (dmrd : Bytes) : HbpFrame := HbpFrame.parse dmrd (dmrd.getD dmrdFlagsOff 0)

/-- The header of a sent frame has 20 bytes in front of its payload. -/
theorem dmrdFrame_layout (cfg : Config) (seq : UInt8) {srcSub dstGroup streamId : Bytes}
    (srcWide : srcSub.length = 3) (dstWide : dstGroup.length = 3) (streamWide : streamId.length = 4)
    (flags : UInt8) (payload : Bytes) :
    ∃ s0 s1 s2 d0 d1 d2 r0 r1 r2 r3 i0 i1 i2 i3,
      srcSub = [s0, s1, s2] ∧ dstGroup = [d0, d1, d2] ∧ streamId = [i0, i1, i2, i3] ∧
      dmrdFrame cfg seq srcSub dstGroup flags streamId payload =
        [0x44, 0x4d, 0x52, 0x44, seq, s0, s1, s2, d0, d1, d2, r0, r1, r2, r3, flags, i0, i1, i2, i3] ++
          (payload ++ [0x00, 0x00]) := by
  obtain ⟨s0, s1, s2, rfl⟩ := List.length_eq_three.mp srcWide
  obtain ⟨d0, d1, d2, rfl⟩ := List.length_eq_three.mp dstWide
  obtain ⟨i0, i1, i2, i3, rfl⟩ := List.length_eq_four.mp streamWide
  refine ⟨s0, s1, s2, d0, d1, d2, UInt8.ofNat (cfg.hbpRepeaterId / 256 / 256 / 256),
    UInt8.ofNat (cfg.hbpRepeaterId / 256 / 256), UInt8.ofNat (cfg.hbpRepeaterId / 256),
    UInt8.ofNat cfg.hbpRepeaterId, i0, i1, i2, i3, rfl, rfl, rfl, ?_⟩
  simp only [dmrdFrame, hbpfDmrd, List.append_assoc, List.cons_append, List.nil_append]
  rfl

/-- What is read from a sent frame is what was put in. -/
structure DmrdFields (dmrd srcSub dstGroup : Bytes) (flags : UInt8) (streamId payload : Bytes) :
    Prop where
  length : dmrd.length = dmrdLen
  marked : dmrd[dmrdFlagsOff]? = some flags
  frame : HbpFrame.parse dmrd flags = ⟨srcSub, dstGroup, flags, streamId, payload⟩

theorem dmrdFrame_fields (cfg : Config) (seq : UInt8) {srcSub dstGroup streamId payload : Bytes}
    (srcWide : srcSub.length = 3) (dstWide : dstGroup.length = 3) (streamWide : streamId.length = 4)
    (payloadWide : payload.length = 33) (flags : UInt8) :
    DmrdFields (dmrdFrame cfg seq srcSub dstGroup flags streamId payload) srcSub dstGroup flags streamId
      payload := by
  obtain ⟨s0, s1, s2, d0, d1, d2, r0, r1, r2, r3, i0, i1, i2, i3, rfl, rfl, rfl, layout⟩ :=
    dmrdFrame_layout cfg seq srcWide dstWide streamWide flags payload
  rw [layout]
  have cut : (payload ++ [0x00, 0x00]).take 33 = payload := List.take_left' payloadWide
  constructor
  · simp only [List.length_append, List.length_cons, List.length_nil, payloadWide]
    rfl
  · rfl
  · change HbpFrame.mk _ _ _ _ ((payload ++ [0x00, 0x00]).take 33) = _
    rw [cut]
    rfl

theorem DmrdFields.read {dmrd srcSub dstGroup streamId payload : Bytes} {flags : UInt8}
    (fields : DmrdFields dmrd srcSub dstGroup flags streamId payload) :
    HbpFrame.read dmrd = ⟨srcSub, dstGroup, flags, streamId, payload⟩ := by
  rw [HbpFrame.read, List.getD_eq_getElem?_getD, fields.marked]
  exact fields.frame

theorem gvSrcSub_length {data : Bytes} (long : 31 ≤ data.length) : (gvSrcSub data).length = 3 := by
  simp only [gvSrcSub, extract_length, gvSrcSubOff]
  omega

theorem gvDstGroup_length {data : Bytes} (long : 31 ≤ data.length) : (gvDstGroup data).length = 3 := by
  simp only [gvDstGroup, extract_length, gvDstGroupOff]
  omega

/-- The LC of a packet has nine bytes. -/
theorem gvLc_length {dmr : DmrUtils} (documented : dmr.Documented) {data : Bytes}
    (long : 31 ≤ data.length) : (gvLc dmr data).length = 9 := by
  simp only [gvLc, List.length_append, documented.lcOpt_length, gvDstGroup_length long,
    gvSrcSub_length long]

/-- A recorded LC is true in Python. -/
theorem truthyOr_some {lc : Bytes} (lcWide : lc.length = 9) (fallback : Bytes) :
    truthyOr (some lc) fallback = lc := by
  cases lc with
  | nil => cases lcWide
  | cons byte rest => rfl

/-- The bits of an LC payload are the halves of the codeword around the slot type and the sync. -/
theorem lcPayload_bits {dmr : DmrUtils} (documented : dmr.Documented) {codeword slotType : Bits}
    (codewordWide : codeword.length = 196) (slotTypeWide : slotType.length = 20) :
    bytesToBits (lcPayload dmr codeword slotType) =
      codeword.take 98 ++ slotType.take 10 ++ dmr.bsDataSync ++ slotType.drop 10 ++ codeword.drop 98 := by
  rw [lcPayload, slotTypeWide, bytesToBits_bitsToBytes]
  simp only [List.length_append, List.length_take, List.length_drop, codewordWide, slotTypeWide,
    documented.bsDataSync_length]
  decide

theorem lcPayload_length {dmr : DmrUtils} (documented : dmr.Documented) {codeword slotType : Bits}
    (codewordWide : codeword.length = 196) (slotTypeWide : slotType.length = 20) :
    (lcPayload dmr codeword slotType).length = 33 := by
  have bits := congrArg List.length (lcPayload_bits documented codewordWide slotTypeWide)
  simp only [bytesToBits_length, List.length_append, List.length_take, List.length_drop, codewordWide,
    slotTypeWide, documented.bsDataSync_length] at bits
  omega

/-- A converted voice frame has 72 bits. -/
theorem ambe49To72_length {dmr : DmrUtils} (documented : dmr.Documented) {ambe : Bits}
    (ambeWide : ambe.length = 49) : (ambe49To72 dmr ambe).length = 72 := by
  rw [ambe49To72, bytesToBits_length, documented.convert49_length ambe ambeWide]

/-- The three voice frames of 19 AMBE bytes. -/
structure VoiceFrames where
  first : Bits
  second : Bits
  third : Bits

/-- The voice frames lie one bit apart. -/
def voiceFrames (ambe : Bytes) : VoiceFrames where
  first := (bytesToBits ambe).extract 0 49
  second := (bytesToBits ambe).extract 50 99
  third := (bytesToBits ambe).extract 100 149

/-- Each voice frame has 49 bits. -/
theorem voiceFrames_length {ambe : Bytes} (ambeWide : ambe.length = 19) :
    (voiceFrames ambe).first.length = 49 ∧ (voiceFrames ambe).second.length = 49 ∧
      (voiceFrames ambe).third.length = 49 := by
  simp [voiceFrames, ambeWide]

/-- The bits of a voice payload are the converted voice frames around the middle field. -/
theorem voicePayload_bits {dmr : DmrUtils} (documented : dmr.Documented) {ambe : Bytes}
    (ambeWide : ambe.length = 19) {embed : Bits} (embedWide : embed.length = 48) :
    bytesToBits (voicePayload dmr ambe embed) =
      ambe49To72 dmr (voiceFrames ambe).first ++ (ambe49To72 dmr (voiceFrames ambe).second).take 36 ++
        embed ++ (ambe49To72 dmr (voiceFrames ambe).second).drop 36 ++
        ambe49To72 dmr (voiceFrames ambe).third := by
  obtain ⟨first, second, third⟩ := voiceFrames_length ambeWide
  change bytesToBits (bitsToBytes _) = _
  apply bytesToBits_bitsToBytes
  have firstWide := ambe49To72_length documented first
  have secondWide := ambe49To72_length documented second
  have thirdWide := ambe49To72_length documented third
  simp only [voiceFrames] at firstWide secondWide thirdWide
  simp only [List.length_append, List.length_take, List.length_drop, firstWide, secondWide, thirdWide,
    embedWide]
  decide

/-- Every burst after the first sends its own embedded fragment, or the null fragment. -/
theorem encodeEmblc_getD_length {dmr : DmrUtils} (documented : dmr.Documented) {lc : Bytes}
    (lcWide : lc.length = 9) {pos : Nat} (least : 1 ≤ pos) (most : pos ≤ 4) :
    ((dmr.encodeEmblc lc pos).getD nullEmbLc).length = 32 := by
  obtain ⟨fragment, found, fragmentWide⟩ := documented.encodeEmblc_fragment lc lcWide pos least most
  rw [found]
  exact fragmentWide

/-- The middle field has 48 bits. -/
theorem buildEmbed_length {dmr : DmrUtils} (documented : dmr.Documented) {lc : Bytes}
    (lcWide : lc.length = 9) (pos : Nat) :
    (buildEmbed dmr pos (some (dmr.encodeEmblc lc))).length = 48 := by
  unfold buildEmbed
  split
  case isTrue => exact documented.bsVoiceSync_length
  case isFalse later =>
    have word := documented.emb_length (embBurst pos)
    have fragment : (if pos ≤ 4 then (dmr.encodeEmblc lc pos).getD nullEmbLc else nullEmbLc).length =
        32 := by
      split
      case isTrue most => exact encodeEmblc_getD_length documented lcWide (by omega) most
      case isFalse => rfl
    simp only [List.length_append, List.length_take, List.length_drop, word, fragment]
    decide

/-- The payload of a voice frame has 33 bytes. -/
theorem voicePayload_length {dmr : DmrUtils} (documented : dmr.Documented) {ambe : Bytes}
    (ambeWide : ambe.length = 19) {embed : Bits} (embedWide : embed.length = 48) :
    (voicePayload dmr ambe embed).length = 33 := by
  obtain ⟨first, second, third⟩ := voiceFrames_length ambeWide
  have bits := congrArg List.length (voicePayload_bits documented ambeWide embedWide)
  simp only [bytesToBits_length, List.length_append, List.length_take, List.length_drop,
    ambe49To72_length documented first, ambe49To72_length documented second,
    ambe49To72_length documented third, embedWide] at bits
  omega

/-- The middle field lies in the middle of the payload. -/
theorem voicePayload_middle {dmr : DmrUtils} (documented : dmr.Documented) {ambe : Bytes}
    (ambeWide : ambe.length = 19) {embed : Bits} (embedWide : embed.length = 48) :
    (bytesToBits (voicePayload dmr ambe embed)).extract 108 156 = embed := by
  obtain ⟨first, second, third⟩ := voiceFrames_length ambeWide
  have before : (ambe49To72 dmr (voiceFrames ambe).first ++
      (ambe49To72 dmr (voiceFrames ambe).second).take 36).length = 108 := by
    simp only [List.length_append, List.length_take, ambe49To72_length documented first,
      ambe49To72_length documented second]
    decide
  rw [voicePayload_bits documented ambeWide embedWide, List.extract_eq_take_drop, List.append_assoc,
    List.append_assoc, List.drop_left' before, List.take_left' embedWide]

/-- The flags of a voice frame at a superframe position. -/
def voiceFlags (pos : Nat) : UInt8 :=
  if pos = 0 then hbpfFrametypeVoicesync else hbpfFrametypeVoice ||| UInt8.ofNat pos

/-- A sent header reads back as the header of its packet. -/
theorem headFrame_fields {dmr : DmrUtils} (documented : dmr.Documented) (cfg : Config) (ts : Timeslot)
    {data streamId : Bytes} (long : 31 ≤ data.length) (wide : streamId.length = 4) (seq : UInt8) :
    DmrdFields (headFrame dmr cfg ts data streamId seq) (gvSrcSub data) (gvDstGroup data)
      (timeslotFlag ts ||| (hbpfFrametypeDatasync ||| hbpfSltVhead)) streamId
      (lcPayload dmr (dmr.encodeHeaderLc (gvLc dmr data)) dmr.slotTypeVoiceLcHead) :=
  dmrdFrame_fields cfg seq (gvSrcSub_length long) (gvDstGroup_length long) wide
    (lcPayload_length documented (documented.encodeHeaderLc_length _ (gvLc_length documented long))
      documented.slotTypeVoiceLcHead_length) _

/-- A sent terminator reads back with the LC of its stream. -/
theorem termFrame_fields {dmr : DmrUtils} (documented : dmr.Documented) (cfg : Config) (ts : Timeslot)
    {data lc streamId : Bytes} (long : 31 ≤ data.length) (lcWide : lc.length = 9)
    (wide : streamId.length = 4) (seq : UInt8) :
    DmrdFields (termFrame dmr cfg ts data lc streamId seq) (gvSrcSub data) (gvDstGroup data)
      (timeslotFlag ts ||| (hbpfFrametypeDatasync ||| hbpfSltVterm)) streamId
      (lcPayload dmr (dmr.encodeTerminatorLc lc) dmr.slotTypeVoiceLcTerm) :=
  dmrdFrame_fields cfg seq (gvSrcSub_length long) (gvDstGroup_length long) wide
    (lcPayload_length documented (documented.encodeTerminatorLc_length lc lcWide)
      documented.slotTypeVoiceLcTerm_length) _

/-- The voice bytes of a packet that is long enough. -/
theorem voiceBytes_length {data : Bytes} (long : 52 ≤ data.length) :
    (data.extract 33 52).length = 19 := by
  rw [extract_length]
  omega

/-- A sent voice frame reads back with the voice of its packet around the middle field. -/
theorem voiceFrame_fields {dmr : DmrUtils} (documented : dmr.Documented) (cfg : Config) (ts : Timeslot)
    {data lc streamId : Bytes} (long : 52 ≤ data.length) (lcWide : lc.length = 9)
    (wide : streamId.length = 4) (pos : Nat) (seq : UInt8) :
    DmrdFields (voiceFrame dmr cfg ts data pos (some (dmr.encodeEmblc lc)) streamId seq)
      (gvSrcSub data) (gvDstGroup data) (timeslotFlag ts ||| voiceFlags pos) streamId
      (voicePayload dmr (data.extract 33 52) (buildEmbed dmr pos (some (dmr.encodeEmblc lc)))) :=
  dmrdFrame_fields cfg seq (gvSrcSub_length (by omega)) (gvDstGroup_length (by omega)) wide
    (voicePayload_length documented (voiceBytes_length long)
      (buildEmbed_length documented lcWide pos)) _

end Ipsc2Hbp
