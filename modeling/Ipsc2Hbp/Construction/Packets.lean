import Ipsc2Hbp.Construction.Translator

namespace Ipsc2Hbp
open BigEndian

/-- A stream ID that `os.urandom` may draw. -/
def firstDraw : StreamId := ⟨[1, 2, 3, 4], rfl⟩

def secondDraw : StreamId := ⟨[5, 6, 7, 8], rfl⟩

/-- The RTP state that `randint` may draw. -/
def rtpDraw : RtpDraw := ⟨0, 0⟩

/-- A GROUP_VOICE packet as a repeater sends it on timeslot 1. -/
def peerPacket (streamByte : UInt8) (srcSub dstGroup gvPayload : Bytes) : Bytes :=
  buildGv {} {} srcSub dstGroup 0x00 (rtpHeader 0x5d 0 0) gvPayload streamByte

/-- The VOICE_HEAD packet of a repeater. -/
def peerHead (dmr : DmrUtils) (streamByte : UInt8) (srcSub dstGroup : Bytes) : Bytes :=
  peerPacket streamByte srcSub dstGroup
    ([voiceHead] ++ buildIpscVoicePayload dmr (dmr.lcOpt ++ dstGroup ++ srcSub) voiceHead)

/-- The VOICE_TERM packet of a repeater. -/
def peerTerm (dmr : DmrUtils) (streamByte : UInt8) (srcSub dstGroup : Bytes) : Bytes :=
  peerPacket streamByte srcSub dstGroup
    ([voiceTerm] ++ buildIpscVoicePayload dmr (dmr.lcOpt ++ dstGroup ++ srcSub) voiceTerm)

/-- A voice packet of a repeater on timeslot 1 with the given voice bytes. -/
def peerVoice (streamByte : UInt8) (srcSub dstGroup ambe : Bytes) : Bytes :=
  peerPacket streamByte srcSub dstGroup ([slot1Voice, 0x14, 0x40] ++ ambe)

/-- A burst E packet of a repeater that is cut off after its mark. -/
def peerBurstECut (streamByte : UInt8) (srcSub dstGroup : Bytes) : Bytes :=
  peerPacket streamByte srcSub dstGroup [slot1Voice, 0x22, 0x16]

/-- The VOICE_LC_HEAD frame of a master on timeslot 1. -/
def masterHead (dmr : DmrUtils) (streamId srcSub dstGroup : Bytes) : Bytes :=
  dmrdFrame {} 0 srcSub dstGroup (hbpfFrametypeDatasync ||| hbpfSltVhead) streamId
    (lcPayload dmr (dmr.encodeHeaderLc (dmr.lcOpt ++ dstGroup ++ srcSub)) dmr.slotTypeVoiceLcHead)

/-- The VOICE_LC_TERM frame of a master on timeslot 1. -/
def masterTerm (dmr : DmrUtils) (streamId srcSub dstGroup : Bytes) : Bytes :=
  dmrdFrame {} 0 srcSub dstGroup (hbpfFrametypeDatasync ||| hbpfSltVterm) streamId
    (lcPayload dmr (dmr.encodeTerminatorLc (dmr.lcOpt ++ dstGroup ++ srcSub)) dmr.slotTypeVoiceLcTerm)

/-- A voice frame of a master on timeslot 1 with silent voice frames. -/
def masterVoice (dmr : DmrUtils) (streamId srcSub dstGroup : Bytes) (flags : UInt8) : Bytes :=
  dmrdFrame {} 0 srcSub dstGroup flags streamId
    (voicePayload dmr (List.replicate 19 0) (buildEmbed dmr 0 none))

end Ipsc2Hbp
