import Ipsc2Hbp.Construction.Load

namespace Ipsc2Hbp
open BigEndian

variable {printable : Char → Bool} {raw : TomlFile}

/-- An accepted file has no errors, and its configuration is returned. -/
theorem load_eq_ok {cfg : LoadedConfig} (accepted : load printable raw = .ok cfg) :
    (loadChecked printable raw).Accepts ∧ (loadChecked printable raw).value = cfg := by
  unfold load at accepted
  simp only at accepted
  split at accepted
  case isTrue => cases accepted
  case isFalse =>
    rw [← Checked.result_eq_ok_iff]
    cases outcome : (loadChecked printable raw).result with
    | error errors => rw [outcome] at accepted; cases accepted
    | ok value => rw [outcome] at accepted; exact congrArg Except.ok (Except.ok.inj accepted)

theorem load_of_accepts (accepts : (loadChecked printable raw).Accepts)
    (named : (loadChecked printable raw).value.nullAddress = false) :
    load printable raw = .ok (loadChecked printable raw).value := by
  unfold load
  simp only
  rw [named, (Checked.result_eq_ok_iff _ _).mpr ⟨accepts, rfl⟩]
  rfl

/-- A file with an error is not accepted, and the error is in the report unless an address has a null
character. -/
theorem load_of_error {error : String} (found : error ∈ (loadChecked printable raw).errors) :
    load printable raw = .error .embeddedNull ∨
      ∃ errors, load printable raw = .error (.configurationErrors errors) ∧ error ∈ errors := by
  unfold load
  simp only
  split
  case isTrue => exact .inl rfl
  case isFalse =>
    have refused : ¬ (loadChecked printable raw).Accepts := by
      intro accepts
      rw [accepts] at found
      cases found
    have outcome := (Checked.result_eq_error_iff _ _).mpr ⟨refused, rfl⟩
    rw [outcome]
    exact .inr ⟨_, rfl, found⟩

/-- An accepted integer lies between its bounds. -/
theorem getInt_bounds {sec : TomlTable} {sectionName key : String} {options : IntOptions}
    (accepts : (getInt sec sectionName key options).Accepts) :
    (∀ minVal ∈ options.minVal, minVal ≤ (getInt sec sectionName key options).value) ∧
      ∀ maxVal ∈ options.maxVal, (getInt sec sectionName key options).value ≤ maxVal := by
  unfold getInt at accepts ⊢
  simp only [Checked.bind_accepts, Checked.bind_value, Checked.pure_value] at accepts ⊢
  obtain ⟨-, low, high, -⟩ := accepts
  constructor
  · intro minVal bound
    rw [Option.mem_def.mp bound] at low
    simpa [checkMin] using low
  · intro maxVal bound
    rw [Option.mem_def.mp bound] at high
    simpa [checkMax] using high

/-- The value lies between the two bounds. -/
def InRange (low high value : Int) : Prop := low ≤ value ∧ value ≤ high

instance decidableInRange (low high value : Int) : Decidable (InRange low high value) :=
  inferInstanceAs (Decidable (_ ∧ _))

theorem getInt_within {sec : TomlTable} {sectionName key : String} {options : IntOptions}
    {low high : Int} (least : options.minVal = some low) (most : options.maxVal = some high)
    (accepts : (getInt sec sectionName key options).Accepts) :
    InRange low high (getInt sec sectionName key options).value :=
  ⟨(getInt_bounds accepts).1 low least, (getInt_bounds accepts).2 high most⟩

/-- An accepted integer of one of two places lies between its bounds when the default does. -/
theorem firstInt_within {primary fallback : KeyPlace} {options : IntOptions} {low high : Int}
    (least : options.minVal = some low) (most : options.maxVal = some high)
    (default : InRange low high options.default)
    (accepts : (firstInt primary fallback options).Accepts) :
    InRange low high (firstInt primary fallback options).value := by
  unfold firstInt firstOf at accepts ⊢
  split_ifs at accepts ⊢
  · exact getInt_within least most accepts
  · exact getInt_within least most accepts
  · exact default
  · exact default

/-- A text with choices is one of them, or the default. -/
theorem getStr_choices (sec : TomlTable) (sectionName key : String) {options : StrOptions}
    {choices : List String} (chosen : options.choices = some choices)
    (default : options.upper = false) :
    (getStr printable sec sectionName key options).value ∈ options.default :: choices := by
  unfold getStr
  rw [chosen, default]
  simp only [Bool.false_eq_true, if_false]
  split
  case h_1 => exact List.mem_cons_self
  case h_2 =>
    split
    case isTrue among => exact List.mem_cons_of_mem _ among
    case isFalse => exact List.mem_cons_self
  case h_3 => exact List.mem_cons_self

/-- What the loader has checked of a configuration. -/
structure LoadedConfig.Valid (cfg : LoadedConfig) : Prop where
  ipscBindPort : InRange 1 65535 cfg.ipscBindPort
  ipscMasterId : InRange 0 0xFFFFFFFF cfg.ipscMasterId
  ipscPeerId : InRange 0 0xFFFFFFFF cfg.ipscPeerId
  ipscSourceId : cfg.ipscSourceId = if cfg.ipscMode = .master then cfg.ipscMasterId else cfg.ipscPeerId
  nonzeroSource : cfg.ipscSourceId ≠ 0
  allowedPeerIp : cfg.ipscMode = .master → cfg.allowedPeerIp ≠ "" →
    (inetAton cfg.allowedPeerIp).isSome = true
  keepaliveWatchdog : 5 ≤ cfg.keepaliveWatchdog
  upstreamMasterIp : cfg.ipscMode = .peer → (inetAton cfg.ipscUpstreamMasterIp).isSome = true
  upstreamMasterPort : cfg.ipscMode = .peer → cfg.ipscUpstreamMasterPort ≠ 0
  upstreamMasterId : InRange 0 0xFFFFFFFF cfg.ipscUpstreamMasterId
  peerAliveInterval : InRange 1 300 cfg.ipscPeerAliveInterval
  maxMissed : InRange 1 1000 cfg.ipscMaxMissed
  reflectWindow : InRange 0 60 cfg.ipscReflectWindow
  busyHoldoffMs : InRange 0 5000 cfg.ipscBusyHoldoffMs
  callLockHangMs : InRange 0 5000 cfg.ipscCallLockHangMs
  hbpMasterPort : InRange 1 65535 cfg.hbpMasterPort
  hbpRepeaterId : InRange 1 0xFFFFFFFF cfg.hbpRepeaterId
  frameIntervalMs : InRange 10 250 cfg.hbpToIpscFrameIntervalMs
  queueLimit : InRange 10 5000 cfg.hbpToIpscQueueLimit
  headerRepeats : InRange 1 5 cfg.hbpToIpscHeaderRepeats

/-- A bounded integer is a bounded number. -/
theorem InRange.toNat {low high value : Int} (within : InRange low high value) (natural : 0 ≤ low) :
    InRange low high value.toNat := by
  unfold InRange at *
  omega

theorem nonzero_toNat {value : Int} (natural : 0 ≤ value) (nonzero : value ≠ 0) : value.toNat ≠ 0 := by
  omega

theorem port_ne_zero {port : Int} (within : InRange 0 65535 port) (nonzero : port ≠ 0) :
    UInt16.ofNat port.toNat ≠ 0 := by
  intro zero
  have read := congrArg UInt16.toNat zero
  rw [UInt16.toNat_ofNat'] at read
  unfold InRange at within
  have none : port.toNat % 2 ^ 16 = 0 := read
  omega

/-- The repeater's own ID goes before the peer ID. -/
theorem repeater_within {own peer : Int} (ownWithin : InRange 0 0xFFFFFFFF own)
    (peerWithin : InRange 0 0xFFFFFFFF peer) (nonzero : ¬ (if own ≠ 0 then own else peer) = 0) :
    InRange 1 0xFFFFFFFF (if own ≠ 0 then own else peer).toNat := by
  unfold InRange at *
  split_ifs at nonzero ⊢ <;> omega

theorem checkAllowedPeerIp_accepts {mode allowedPeerIp : String} :
    (checkAllowedPeerIp printable mode allowedPeerIp).Accepts ↔
      (mode = "MASTER" → allowedPeerIp ≠ "" → (inetAton allowedPeerIp).isSome = true) := by
  unfold checkAllowedPeerIp checkInetAton
  split
  case isTrue asked => simp [asked]
  case isFalse unasked =>
    refine iff_of_true rfl fun master named => ?_
    exact absurd ⟨master, named⟩ unasked

theorem checkUpstream_accepts {mode upstreamIp : String} {upstreamPort : Int} :
    (checkUpstream printable mode upstreamIp upstreamPort).Accepts ↔
      (mode = "PEER" → (inetAton upstreamIp).isSome = true ∧ upstreamPort ≠ 0) := by
  unfold checkUpstream checkInetAton
  split
  case isTrue asked => simp [asked]
  case isFalse unasked => exact iff_of_true rfl fun peer => absurd peer unasked

/-- The loader returns valid configurations only. -/
theorem loadChecked_valid (accepts : (loadChecked printable raw).Accepts) :
    (loadChecked printable raw).value.Valid := by
  unfold loadChecked at accepts ⊢
  simp only [Checked.bind_accepts, Checked.bind_value, Checked.pure_value] at accepts ⊢
  generalize modeOf : (getStr printable (requiredSection raw "ipsc").value "ipsc" "mode" _).value = mode
    at accepts ⊢
  have choice : mode = "MASTER" ∨ mode = "PEER" := by
    have among : mode ∈ "MASTER" :: validIpscModes := by
      rw [← modeOf]
      exact getStr_choices _ _ _ rfl rfl
    simpa [validIpscModes] using among
  have other : (if ("PEER" : String) = "MASTER" then IpscMode.master else .peer) ≠ .master ∧
      (if ("MASTER" : String) = "MASTER" then IpscMode.master else .peer) ≠ .peer := by decide
  repeat rcases accepts with ⟨_, accepts⟩
  constructor
  case ipscBindPort | hbpMasterPort | ipscMasterId | ipscPeerId =>
    exact (getInt_within rfl rfl (by assumption)).toNat (by decide)
  case upstreamMasterId =>
    exact (firstInt_within rfl rfl (by decide) (by assumption)).toNat (by decide)
  case peerAliveInterval => exact firstInt_within rfl rfl (by decide) (by assumption)
  case keepaliveWatchdog => exact (getInt_bounds (by assumption)).1 5 rfl
  case maxMissed | reflectWindow | busyHoldoffMs | callLockHangMs | frameIntervalMs | queueLimit
    | headerRepeats => exact getInt_within rfl rfl (by assumption)
  case ipscSourceId => rcases choice with rfl | rfl <;> rfl
  case nonzeroSource =>
    have master := Checked.reportIf_accepts _ _ |>.mp
      ‹(Checked.reportIf (decide (mode = "MASTER") && _) _).Accepts›
    have peer := Checked.reportIf_accepts _ _ |>.mp
      ‹(Checked.reportIf (decide (mode = "PEER") && _) _).Accepts›
    rcases choice with rfl | rfl
    · exact nonzero_toNat (getInt_within rfl rfl (by assumption)).1 (by simpa using master)
    · exact nonzero_toNat (getInt_within rfl rfl (by assumption)).1 (by simpa using peer)
  case allowedPeerIp =>
    have checked := checkAllowedPeerIp_accepts.mp
      ‹(checkAllowedPeerIp printable mode _).Accepts›
    rcases choice with rfl | rfl
    · exact fun _ => checked rfl
    · exact fun master => absurd master other.1
  case upstreamMasterIp =>
    have checked := checkUpstream_accepts.mp ‹(checkUpstream printable mode _ _).Accepts›
    rcases choice with rfl | rfl
    · exact fun peer => absurd peer other.2
    · exact fun _ => (checked rfl).1
  case upstreamMasterPort =>
    have checked := checkUpstream_accepts.mp ‹(checkUpstream printable mode _ _).Accepts›
    rcases choice with rfl | rfl
    · exact fun peer => absurd peer other.2
    · exact fun _ => port_ne_zero (firstInt_within rfl rfl (by decide) (by assumption)) (checked rfl).2
  case hbpRepeaterId =>
    have named := (Checked.reportIf_accepts _ _).mp
      ‹(Checked.reportIf (decide ((_ : Int) = 0)) _).Accepts›
    exact repeater_within (getInt_within rfl rfl (by assumption))
      (getInt_within rfl rfl (by assumption)) (of_decide_eq_false named)

end Ipsc2Hbp
