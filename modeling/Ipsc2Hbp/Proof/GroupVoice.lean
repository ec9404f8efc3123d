import Ipsc2Hbp.Construction.GroupVoice
import Ipsc2Hbp.Proof.SlotStep

namespace Ipsc2Hbp
open BigEndian

/-- A packet with a burst type has 31 bytes. -/
theorem parseGroupVoiceMeta_long {data : Bytes} {ts : Timeslot} {burstType : UInt8}
    (parsed : parseGroupVoiceMeta data = .ok (ts, burstType)) : 31 ≤ data.length := by
  unfold parseGroupVoiceMeta at parsed
  split at parsed
  case h_1 callInfo burstType atInfo atType => exact (List.getElem?_eq_some_iff.mp atType).1
  case h_2 => cases parsed

/-- Two bytes are spelled by their halves. -/
theorem natToBytes_two (value : Nat) :
    natToBytes 2 value = [UInt8.ofNat (value / 256), UInt8.ofNat value] := rfl

theorem natToBytes_four (value : Nat) :
    natToBytes 4 value = [UInt8.ofNat (value / 256 / 256 / 256), UInt8.ofNat (value / 256 / 256),
      UInt8.ofNat (value / 256), UInt8.ofNat value] := rfl

/-- The header of a built packet has 30 bytes in front of its payload. -/
theorem buildGv_layout (cfg : Config) {shared : Shared} (wide : shared.Wide) {srcSub dstGroup : Bytes}
    (srcWide : srcSub.length = 3) (dstWide : dstGroup.length = 3) (callInfo rtpPt streamId : UInt8)
    (rtpSeq : UInt16) (rtpTs : UInt32) (gvPayload : Bytes) :
    ∃ m0 m1 m2 m3 s0 s1 s2 d0 d1 d2 t c0 c1 c2 c3,
      srcSub = [s0, s1, s2] ∧ dstGroup = [d0, d1, d2] ∧ shared.peerCallType = [t] ∧
      shared.peerCallCtrl = [c0, c1, c2, c3] ∧
      buildGv cfg shared srcSub dstGroup callInfo (rtpHeader rtpPt rtpSeq rtpTs) gvPayload streamId =
        [groupVoice, m0, m1, m2, m3, streamId, s0, s1, s2, d0, d1, d2, t, c0, c1, c2, c3, callInfo,
          0x80, rtpPt] ++ natToBytes 2 rtpSeq.toNat ++ natToBytes 4 rtpTs.toNat ++ [0, 0, 0, 0] ++
          gvPayload := by
  obtain ⟨s0, s1, s2, rfl⟩ := List.length_eq_three.mp srcWide
  obtain ⟨d0, d1, d2, rfl⟩ := List.length_eq_three.mp dstWide
  obtain ⟨t, callType⟩ := List.length_eq_one_iff.mp wide.peerCallType
  obtain ⟨c0, c1, c2, c3, callCtrl⟩ := List.length_eq_four.mp wide.peerCallCtrl
  refine ⟨UInt8.ofNat (cfg.ipscSourceId / 256 / 256 / 256), UInt8.ofNat (cfg.ipscSourceId / 256 / 256),
    UInt8.ofNat (cfg.ipscSourceId / 256), UInt8.ofNat cfg.ipscSourceId, s0, s1, s2, d0, d1, d2, t, c0,
    c1, c2, c3, rfl, rfl, callType, callCtrl, ?_⟩
  simp only [buildGv, rtpHeader, callType, callCtrl, natToBytes_four cfg.ipscSourceId, List.append_assoc,
    List.cons_append, List.nil_append]

/-- The header fields of a packet that the translator builds. -/
structure GvFields (packet : Bytes) (callInfo rtpPt streamId burstType : UInt8) (rtpSeq : UInt16)
    (rtpTs : UInt32) : Prop where
  stream : gvStream packet = some streamId
  callInfo : gvCallInfo packet = some callInfo
  rtpPt : gvRtpPt packet = some rtpPt
  rtpSeq : gvRtpSeq packet = rtpSeq.toNat
  rtpTs : gvRtpTs packet = rtpTs.toNat
  burstType : gvBurstType packet = some burstType

/-- A built packet shows the fields that it was built from. -/
theorem buildGv_fields (cfg : Config) {shared : Shared} (wide : shared.Wide) {srcSub dstGroup : Bytes}
    (srcWide : srcSub.length = 3) (dstWide : dstGroup.length = 3)
    (callInfo rtpPt streamId burstType : UInt8) (rtpSeq : UInt16) (rtpTs : UInt32) (rest : Bytes) :
    GvFields (buildGv cfg shared srcSub dstGroup callInfo (rtpHeader rtpPt rtpSeq rtpTs)
      (burstType :: rest) streamId) callInfo rtpPt streamId burstType rtpSeq rtpTs := by
  obtain ⟨m0, m1, m2, m3, s0, s1, s2, d0, d1, d2, t, c0, c1, c2, c3, -, -, -, -, layout⟩ :=
    buildGv_layout cfg wide srcWide dstWide callInfo rtpPt streamId rtpSeq rtpTs (burstType :: rest)
  rw [layout]
  have seqBytes := bytesToNat_natToBytes 2 rtpSeq.toNat rtpSeq.toNat_lt
  have tsBytes := bytesToNat_natToBytes 4 rtpTs.toNat rtpTs.toNat_lt
  constructor
  · rfl
  · rfl
  · rfl
  · exact seqBytes
  · exact tsBytes
  · rfl

/-- A packet of a call shows the call's counters and stream byte. -/
theorem callPacket_fields (cfg : Config) {shared : Shared} (wide : shared.Wide) {frame : HbpFrame}
    (frameWide : frame.Wide) (callInfo rtpPt burstType : UInt8) (rest : Bytes) (inCall : InCall) :
    GvFields (callPacket cfg shared frame callInfo rtpPt (burstType :: rest) inCall) callInfo rtpPt
      inCall.streamId burstType inCall.rtpSeq inCall.rtpTs :=
  buildGv_fields cfg wide frameWide.srcSub frameWide.dstGroup ..

end Ipsc2Hbp
