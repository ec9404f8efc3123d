import Ipsc2Hbp.Library.BigEndian
import Ipsc2Hbp.Construction.Const
import Mathlib.Algebra.Order.Field.Basic
import Mathlib.Algebra.Order.Ring.Rat
import Mathlib.Tactic.NormNum

namespace Ipsc2Hbp
open BigEndian

/-- Python's clock values in seconds; a float is a rational. -/
abbrev Time := ℚ

inductive IpscMode where
  | master
  | peer
  deriving DecidableEq, Repr

inductive PacketFlow where
  | packetTranslator
  | legacyAmbe
  deriving DecidableEq, Repr

inductive HbpMode where
  | tracking
  | persistent
  deriving DecidableEq, Repr

/-- The configuration fields that the modelled functions read, with the loader's defaults. -/
structure Config where
  ipscMode : IpscMode := .master
  ipscMasterId : Nat := 1
  ipscPeerId : Nat := 0
  ipscSourceId : Nat := 1
  allowedPeerIp : String := ""
  authEnabled : Bool := false
  authKey : Bytes := List.replicate 20 0
  keepaliveWatchdog : Int := 60
  ipscUpstreamMasterIp : String := ""
  ipscUpstreamMasterPort : UInt16 := 0
  ipscUpstreamMasterId : Nat := 0
  ipscPeerAliveInterval : Int := 5
  ipscMaxMissed : Int := 3
  ipscPeerListAllowUnknown : Bool := false
  ipscPeerListPrune : Bool := true
  ipscReflectSuppression : Bool := false
  ipscReflectWindow : Int := 8
  ipscBusySlotGuard : Bool := true
  ipscBusyHoldoffMs : Int := 100
  ipscCallLock : Bool := true
  ipscCallLockHangMs : Int := 250
  ipscCallLockSameTgOnly : Bool := true
  compatPacketFlow : PacketFlow := .packetTranslator
  hbpRepeaterId : Nat := 1
  hbpPassphrase : Bytes := []
  hbpMode : HbpMode := .tracking
  hbpToIpscPacing : Bool := true
  hbpToIpscFrameIntervalMs : Int := 60
  hbpToIpscQueueLimit : Int := 512
  hbpStartOnVoice : Bool := true
  hbpToIpscHeaderRepeats : Int := 3
  options : String := ""
  callsign : String := "NOCALL"
  rxFreq : String := "000000000"
  txFreq : String := "000000000"
  txPower : String := "00"
  colorcode : String := "01"
  latitude : String := "00.0000 "
  longitude : String := "000.0000 "
  height : String := "000"
  location : String := ""
  description : String := ""
  url : String := ""
  softwareId : String := "ipsc2hbp"
  packageId : String := "1.0.0"

namespace Config

/-- The translator keeps this test as `_legacy_flow`. -/
def legacyFlow (cfg : Config) : Bool := decide (cfg.compatPacketFlow = .legacyAmbe)

/-- The post-call hang of the call lock in seconds. -/
def hang (cfg : Config) : Time := max 0 cfg.ipscCallLockHangMs / 1000

/-- A rejected stream stays rejected for this many seconds after each of its packets. -/
def blockFor (cfg : Config) : Time := max (1 / 2) (cfg.ipscCallLockHangMs / 1000 + 1)

/-- The slot counts as busy for this many seconds after an IPSC packet. -/
def holdoff (cfg : Config) : Time := max 0 cfg.ipscBusyHoldoffMs / 1000

/-- The pacing interval between two packets in seconds. -/
def frameInterval (cfg : Config) : Time := max (1 / 100) (cfg.hbpToIpscFrameIntervalMs / 1000)

/-- The pacing queue refuses packets at this length. -/
def queueLimit (cfg : Config) : Nat := (max 10 cfg.hbpToIpscQueueLimit).toNat

/-- A call starts with this many VOICE_HEAD packets. -/
def headerCount (cfg : Config) : Nat := (max 1 (min 5 cfg.hbpToIpscHeaderRepeats)).toNat

theorem headerCount_bounds (cfg : Config) : 1 ≤ cfg.headerCount ∧ cfg.headerCount ≤ 5 := by
  unfold headerCount
  omega

end Config
end Ipsc2Hbp
