import Ipsc2Hbp.Construction.State

namespace Ipsc2Hbp
open BigEndian

/-- `_parse_group_voice_meta` reads the timeslot and the burst type of a GROUP_VOICE packet. -/
def parseGroupVoiceMeta (data : Bytes) : Except PyErr (Timeslot × UInt8) :=
  match data[gvCallInfoOff]?, data[gvBurstTypeOff]? with
  | some callInfo, some burstType =>
      .ok (if callInfo &&& tsCallMsk ≠ 0 then .ts2 else .ts1, burstType)
  | _, _ => .error .indexError

/-- The stream byte of a GROUP_VOICE packet. -/
def gvStream (packet : Bytes) : Option UInt8 := packet[gvIpscSeqOff]?

/-- The call info byte of a GROUP_VOICE packet. -/
def gvCallInfo (packet : Bytes) : Option UInt8 := packet[gvCallInfoOff]?

/-- The payload type byte of the RTP header. -/
def gvRtpPt (packet : Bytes) : Option UInt8 := packet[19]?

/-- The sequence number of the RTP header. -/
def gvRtpSeq (packet : Bytes) : Nat := bytesToNat (packet.extract 20 22)

/-- The timestamp of the RTP header. -/
def gvRtpTs (packet : Bytes) : Nat := bytesToNat (packet.extract 22 26)

/-- The burst type of a GROUP_VOICE packet. -/
def gvBurstType (packet : Bytes) : Option UInt8 := packet[gvBurstTypeOff]?

end Ipsc2Hbp
