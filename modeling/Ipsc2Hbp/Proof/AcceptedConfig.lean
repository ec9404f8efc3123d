import Mathlib.Tactic.Linarith
import Ipsc2Hbp.Proof.Addresses

namespace Ipsc2Hbp
open BigEndian

/-- No bound that the running program puts on a value of its own changes the value, but for a
reflection window of 0: sent headers are then not remembered, and an ignored stream would be for 1. -/
structure Config.Unclamped (cfg : Config) : Prop where
  hang : cfg.hang = cfg.ipscCallLockHangMs / 1000
  blockFor : cfg.blockFor = cfg.hang + 1
  holdoff : cfg.holdoff = cfg.ipscBusyHoldoffMs / 1000
  frameInterval : cfg.frameInterval = cfg.hbpToIpscFrameIntervalMs / 1000
  queueLimit : (cfg.queueLimit : Int) = cfg.hbpToIpscQueueLimit
  headerCount : (cfg.headerCount : Int) = cfg.hbpToIpscHeaderRepeats
  reflectWindow : max 0 cfg.ipscReflectWindow = cfg.ipscReflectWindow
  ignoreWindow : max 1 cfg.ipscReflectWindow =
    if cfg.ipscReflectWindow = 0 then 1 else cfg.ipscReflectWindow
  aliveInterval : max 1 cfg.ipscPeerAliveInterval = cfg.ipscPeerAliveInterval
  maxMissed : max 1 cfg.ipscMaxMissed = cfg.ipscMaxMissed

/-- The bounds of the loader lie inside those of the running program. -/
theorem LoadedConfig.Valid.unclamped {cfg : LoadedConfig} (valid : cfg.Valid) :
    cfg.toConfig.Unclamped := by
  have hangMs : (0 : Time) ≤ cfg.ipscCallLockHangMs := by exact_mod_cast valid.callLockHangMs.1
  have hang : cfg.toConfig.hang = cfg.ipscCallLockHangMs / 1000 := by
    rw [Config.hang, max_eq_right valid.callLockHangMs.1]
  refine ⟨hang, ?_, ?_, ?_, ?_, ?_, ?_, ?_, ?_, ?_⟩
  · have long : (1 / 2 : Time) ≤ cfg.ipscCallLockHangMs / 1000 + 1 := by linarith
    rw [Config.blockFor, hang, max_eq_right long]
  · rw [Config.holdoff, max_eq_right valid.busyHoldoffMs.1]
  · have least : (10 : Time) ≤ cfg.hbpToIpscFrameIntervalMs := by exact_mod_cast valid.frameIntervalMs.1
    have long : (1 / 100 : Time) ≤ cfg.hbpToIpscFrameIntervalMs / 1000 := by linarith
    rw [Config.frameInterval, max_eq_right long]
  · obtain ⟨least, -⟩ := valid.queueLimit
    rw [Config.queueLimit]
    omega
  · obtain ⟨least, most⟩ := valid.headerRepeats
    rw [Config.headerCount]
    omega
  · exact max_eq_right valid.reflectWindow.1
  · have least : 0 ≤ cfg.ipscReflectWindow := valid.reflectWindow.1
    show max 1 cfg.ipscReflectWindow = if cfg.ipscReflectWindow = 0 then 1 else cfg.ipscReflectWindow
    split
    case isTrue zero => rw [zero]; rfl
    case isFalse positive => omega
  · exact max_eq_right valid.peerAliveInterval.1
  · exact max_eq_right valid.maxMissed.1

/-- Every configuration that the loader accepts is in range and consistent with its mode, and inside
the bounds of the running program. -/
theorem accepted_config_valid (printable : Char → Bool) {raw : TomlFile} {cfg : LoadedConfig}
    (accepted : load printable raw = .ok cfg) : cfg.Valid ∧ cfg.toConfig.Unclamped := by
  obtain ⟨accepts, rfl⟩ := load_eq_ok accepted
  have valid := loadChecked_valid accepts
  exact ⟨valid, valid.unclamped⟩

theorem accepted_config_valid_upstream :
    ∃ cfg, load (fun _ => true) (upstreamFile "10.0.0.1") = .ok cfg ∧ cfg.ipscSourceId = 1 ∧
      cfg.Valid ∧ cfg.toConfig.Unclamped := by
  have accepted : load (fun _ => true) (upstreamFile "10.0.0.1") = .ok _ :=
    load_of_accepts (by decide +kernel) (by decide +kernel)
  exact ⟨_, accepted, by decide +kernel, accepted_config_valid (fun _ => true) accepted⟩

end Ipsc2Hbp
