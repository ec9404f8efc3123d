import Mathlib.Data.List.Basic

namespace Ipsc2Hbp

/-- The IPSC opcodes of `ipsc/const.py`. -/
def groupVoice : UInt8 := 0x80
def masterRegReq : UInt8 := 0x90
def masterRegReply : UInt8 := 0x91
def peerListReq : UInt8 := 0x92
def peerListReply : UInt8 := 0x93
def peerRegReq : UInt8 := 0x94
def peerRegReply : UInt8 := 0x95
def masterAliveReq : UInt8 := 0x96
def masterAliveReply : UInt8 := 0x97
def peerAliveReq : UInt8 := 0x98
def peerAliveReply : UInt8 := 0x99
def deRegReq : UInt8 := 0x9A
def deRegReply : UInt8 := 0x9B

/-- The burst types of a GROUP_VOICE packet. -/
def voiceHead : UInt8 := 0x01
def voiceTerm : UInt8 := 0x02
def slot1Voice : UInt8 := 0x0A
def slot2Voice : UInt8 := 0x8A

def ipscVer : List UInt8 := [0x04, 0x02, 0x04, 0x01]

def voiceCallMsk : UInt8 := 0x04
def pktAuthMsk : UInt8 := 0x10
def mstrPeerMsk : UInt8 := 0x01

def tsCallMsk : UInt8 := 0x20
def endMsk : UInt8 := 0x40

/-- The field offsets of a GROUP_VOICE packet. -/
def gvIpscSeqOff : Nat := 5
def gvSrcSubOff : Nat := 6
def gvDstGroupOff : Nat := 9
def gvCallInfoOff : Nat := 17
def gvBurstTypeOff : Nat := 30
def authDigestLen : Nat := 10

/-- The command words of `hbp/const.py`, spelled in ASCII. -/
def hbpfDmrd : List UInt8 := [0x44, 0x4d, 0x52, 0x44]
def hbpfRptl : List UInt8 := [0x52, 0x50, 0x54, 0x4c]
def hbpfRptk : List UInt8 := [0x52, 0x50, 0x54, 0x4b]
def hbpfRptc : List UInt8 := [0x52, 0x50, 0x54, 0x43]
def hbpfRpto : List UInt8 := [0x52, 0x50, 0x54, 0x4f]
def hbpfRptack : List UInt8 := [0x52, 0x50, 0x54, 0x41, 0x43, 0x4b]
def hbpfMstnak : List UInt8 := [0x4d, 0x53, 0x54, 0x4e, 0x41, 0x4b]
def hbpfRptping : List UInt8 := [0x52, 0x50, 0x54, 0x50, 0x49, 0x4e, 0x47]
def hbpfMstpong : List UInt8 := [0x4d, 0x53, 0x54, 0x50, 0x4f, 0x4e, 0x47]
def hbpfRptcl : List UInt8 := [0x52, 0x50, 0x54, 0x43, 0x4c]
def hbpfMstcl : List UInt8 := [0x4d, 0x53, 0x54, 0x43, 0x4c]

/-- The flag bits of a DMRD frame. -/
def hbpfTgidTs2 : UInt8 := 0x80
def hbpfTgidCallP : UInt8 := 0x40
def hbpfFrametypeVoice : UInt8 := 0x00
def hbpfFrametypeVoicesync : UInt8 := 0x10
def hbpfFrametypeDatasync : UInt8 := 0x20
def hbpfSltVhead : UInt8 := 0x01
def hbpfSltVterm : UInt8 := 0x02
def hbpfFrametypeMask : UInt8 := 0x30
def hbpfDtypeMask : UInt8 := 0x0F

/-- The field offsets of a DMRD frame. -/
def dmrdLen : Nat := 55
def dmrdSeqOff : Nat := 4
def dmrdSrcOff : Nat := 5
def dmrdDstOff : Nat := 8
def dmrdFlagsOff : Nat := 15
def dmrdStreamOff : Nat := 16
def dmrdPayloadOff : Nat := 20

def rptcSlotsValue : List UInt8 := [0x33]
def rptackNonceOff : Nat := 6

end Ipsc2Hbp
