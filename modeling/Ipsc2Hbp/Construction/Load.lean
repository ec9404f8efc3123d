import Ipsc2Hbp.Construction.Text
import Ipsc2Hbp.Library.Checked

namespace Ipsc2Hbp
open BigEndian

/-- The TOML types that the loader only names. -/
inductive OtherType where
  | float
  | list
  | dict
  | datetime
  | date
  | time
  deriving DecidableEq, Repr

/-- A value of a TOML table. -/
inductive TomlValue where
  | str (text : String)
  | int (value : Int)
  | bool (value : Bool)
  | other (type : OtherType)
  deriving DecidableEq, Repr

/-- `type(val).__name__` -/
def TomlValue.typeName : TomlValue → String
  | .str _ => "str"
  | .int _ => "int"
  | .bool _ => "bool"
  | .other .float => "float"
  | .other .list => "list"
  | .other .dict => "dict"
  | .other .datetime => "datetime"
  | .other .date => "date"
  | .other .time => "time"

/-- A section of the file with its keys. -/
abbrev TomlTable := List (String × TomlValue)

/-- What stands under a name at the top of the file. -/
inductive TomlItem where
  | table (entries : TomlTable)
  | value
  deriving DecidableEq, Repr

/-- The file as `tomllib.load` returns it. -/
abbrev TomlFile := List (String × TomlItem)

/-- The configuration with the fields that only the start of the program reads. -/
structure LoadedConfig extends Config where
  logLevel : String
  ipscBindIp : String
  ipscBindPort : Nat
  hbpMasterIp : String
  hbpMasterPort : Nat

/-- The outcome of one step of the loader, with the errors that it appends. -/
abbrev Loader := Checked String

def requiredSection (raw : TomlFile) (name : String) : Loader TomlTable :=
  match raw.lookup name with
  | none => ⟨[], [s!"[{name}] section: required"]⟩
  | some .value => ⟨[], [s!"[{name}] section: must be a table"]⟩
  | some (.table entries) => ⟨entries, []⟩

def optionalSection (raw : TomlFile) (name : String) : Loader TomlTable :=
  match raw.lookup name with
  | none => ⟨[], []⟩
  | some .value => ⟨[], [s!"[{name}] section: must be a table"]⟩
  | some (.table entries) => ⟨entries, []⟩

/-- Errors name the section and the key. -/
def fieldError (sectionName key reason : String) : String := s!"[{sectionName}] {key}: {reason}"

/-- The keyword arguments of `get_str`. -/
structure StrOptions where
  required : Bool := true
  default : String := ""
  choices : Option (List String) := none
  upper : Bool := false

/-- The keyword arguments of `get_int`. -/
structure IntOptions where
  required : Bool := true
  default : Int := 0
  minVal : Option Int := none
  maxVal : Option Int := none

/-- The keyword arguments of `get_bool`. -/
structure BoolOptions where
  required : Bool := true
  default : Bool := false

/-- The choices as Python shows a sorted list. -/
def showChoices (printable : Char → Bool) (choices : List String) : String :=
  "[" ++ ", ".intercalate (choices.map (reprStr printable)) ++ "]"

def getStr (printable : Char → Bool) (sec : TomlTable) (sectionName key : String)
    (options : StrOptions) : Loader String :=
  let fallback := if options.upper then upper options.default else options.default
  match sec.lookup key with
  | none => ⟨fallback, if options.required then [fieldError sectionName key "required"] else []⟩
  | some (.str text) =>
      let result := strip text
      match options.choices with
      | none => ⟨if options.upper then upper result else result, []⟩
      | some choices =>
          if upper result ∈ choices then ⟨upper result, []⟩
          else ⟨fallback, [fieldError sectionName key ("must be one of " ++
            showChoices printable choices ++ ", got " ++ reprStr printable text)]⟩
  | some val => ⟨fallback, [fieldError sectionName key s!"must be a string, got {val.typeName}"]⟩

/-- The two bounds of `get_int`. -/
def checkMin (sectionName key : String) (value : Int) : Option Int → Loader Unit
  | none => pure ()
  | some minVal =>
      Checked.reportIf (value < minVal) (fieldError sectionName key s!"must be >= {minVal}, got {value}")

def checkMax (sectionName key : String) (value : Int) : Option Int → Loader Unit
  | none => pure ()
  | some maxVal =>
      Checked.reportIf (maxVal < value) (fieldError sectionName key s!"must be <= {maxVal}, got {value}")

/-- The integer that stands under a key, or the default. -/
def findInt (sec : TomlTable) (sectionName key : String) (options : IntOptions) : Loader Int :=
  match sec.lookup key with
  | none =>
      ⟨options.default, if options.required then [fieldError sectionName key "required"] else []⟩
  | some (.int value) => ⟨value, []⟩
  | some val =>
      ⟨options.default, [fieldError sectionName key s!"must be an integer, got {val.typeName}"]⟩

def getInt (sec : TomlTable) (sectionName key : String) (options : IntOptions) : Loader Int := do
  let value ← findInt sec sectionName key options
  checkMin sectionName key value options.minVal
  checkMax sectionName key value options.maxVal
  return value

def getBool (sec : TomlTable) (sectionName key : String) (options : BoolOptions) : Loader Bool :=
  match sec.lookup key with
  | none =>
      ⟨options.default, if options.required then [fieldError sectionName key "required"] else []⟩
  | some (.bool value) => ⟨value, []⟩
  | some val =>
      ⟨options.default, [fieldError sectionName key s!"must be true or false, got {val.typeName}"]⟩

/-- A key that may stand in one of two sections, each with its name. -/
structure KeyPlace where
  sec : TomlTable
  sectionName : String
  key : String

def KeyPlace.present (place : KeyPlace) : Bool := (place.sec.lookup place.key).isSome

/-- `first_str` and `first_int` read the first place at which the key stands. -/
def firstOf {A : Type} (get : TomlTable → String → String → Loader A)
    (primary fallback : KeyPlace) (required : Bool) (default : A) : Loader A :=
  if primary.present then get primary.sec primary.sectionName primary.key
  else if fallback.present then get fallback.sec fallback.sectionName fallback.key
  else ⟨default, if required then [fieldError primary.sectionName primary.key "required"] else []⟩

def firstStr (printable : Char → Bool) (primary fallback : KeyPlace) (options : StrOptions) :
    Loader String :=
  firstOf (fun sec sectionName key => getStr printable sec sectionName key options) primary fallback
    options.required options.default

def firstInt (primary fallback : KeyPlace) (options : IntOptions) : Loader Int :=
  firstOf (fun sec sectionName key => getInt sec sectionName key options) primary fallback
    options.required options.default

def validLogLevels : List String := ["CRITICAL", "DEBUG", "ERROR", "INFO", "WARNING"]

def validHbpModes : List String := ["PERSISTENT", "TRACKING"]

def validIpscModes : List String := ["MASTER", "PEER"]

def validPacketFlows : List String := ["LEGACY_AMBE", "PACKET_TRANSLATOR"]

/-- The key of the IPSC authentication in `load`. -/
def loadAuthKey (printable : Char → Bool) (ipsc : TomlTable) (authEnabled : Bool) : Loader Bytes := do
  let zeros := List.replicate 20 0x00
  if authEnabled then
    let rawKey := strip (← getStr printable ipsc "ipsc" "auth_key" {})
    if 40 < rawKey.length then
      Checked.report (fieldError "ipsc" "auth_key" "must be at most 40 hex characters")
      return zeros
    else match fromhex (zfill 40 rawKey) with
    | .ok authKey => return authKey
    | .error pos =>
        Checked.report (fieldError "ipsc" "auth_key" ("not valid hex: non-hexadecimal number " ++
          s!"found in fromhex() arg at position {pos}"))
        return zeros
  else
    let _ ← getStr printable ipsc "ipsc" "auth_key" { required := false }
    return zeros

/-- An address must be one for `socket.inet_aton`. -/
def checkInetAton (printable : Char → Bool) (sectionName key address : String) : Loader Unit :=
  Checked.reportIf (inetAton address).isNone
    (fieldError sectionName key ("not a valid IPv4 address: " ++ reprStr printable address))

/-- An allowed address must be one for `socket.inet_aton` in MASTER mode. -/
def checkAllowedPeerIp (printable : Char → Bool) (ipscMode allowedPeerIp : String) : Loader Unit :=
  if ipscMode = "MASTER" ∧ allowedPeerIp ≠ "" then
    checkInetAton printable "ipsc" "allowed_peer_ip" allowedPeerIp
  else pure ()

/-- The address and the port of the upstream master are needed in PEER mode. -/
def checkUpstream (printable : Char → Bool) (ipscMode upstreamIp : String) (upstreamPort : Int) :
    Loader Unit :=
  if ipscMode = "PEER" then do
    checkInetAton printable "ipsc_upstream" "master_ip" upstreamIp
    Checked.reportIf (upstreamPort = 0)
      (fieldError "ipsc_upstream" "master_port" "must be non-zero in PEER mode")
  else pure ()

/-- The checks of `load` in order, with the configuration that they lead to. -/
def loadChecked (printable : Char → Bool) (raw : TomlFile) : Loader LoadedConfig := do
  let global ← requiredSection raw "global"
  let ipsc ← requiredSection raw "ipsc"
  let upstream ← optionalSection raw "ipsc_upstream"
  let compat ← optionalSection raw "compat"
  let hbp ← requiredSection raw "hbp"
  let logLevel ← getStr printable global "global" "log_level"
    { required := false, default := "INFO", choices := some validLogLevels }
  let ipscMode ← getStr printable ipsc "ipsc" "mode"
    { required := false, default := "MASTER", choices := some validIpscModes }
  let ipscBindIp ← getStr printable ipsc "ipsc" "bind_ip" {}
  let ipscBindPort ← getInt ipsc "ipsc" "bind_port" { minVal := some 1, maxVal := some 65535 }
  let ipscMasterId ← getInt ipsc "ipsc" "ipsc_master_id"
    { required := ipscMode = "MASTER", minVal := some 0, maxVal := some 0xFFFFFFFF }
  let ipscPeerId ← getInt ipsc "ipsc" "ipsc_peer_id"
    { required := ipscMode = "PEER", minVal := some 0, maxVal := some 0xFFFFFFFF }
  Checked.reportIf (ipscMode = "MASTER" && ipscMasterId = 0)
    (fieldError "ipsc" "ipsc_master_id" "must be non-zero in MASTER mode")
  Checked.reportIf (ipscMode = "PEER" && ipscPeerId = 0)
    (fieldError "ipsc" "ipsc_peer_id" "must be non-zero in PEER mode")
  let allowedPeerIp ← getStr printable ipsc "ipsc" "allowed_peer_ip" { required := false }
  checkAllowedPeerIp printable ipscMode allowedPeerIp
  let authEnabled ← getBool ipsc "ipsc" "auth_enabled" { required := false }
  let authKey ← loadAuthKey printable ipsc authEnabled
  let keepaliveWatchdog ← getInt ipsc "ipsc" "keepalive_watchdog"
    { required := false, default := 60, minVal := some 5 }
  let upstreamIp ← firstStr printable ⟨upstream, "ipsc_upstream", "master_ip"⟩
    ⟨ipsc, "ipsc", "upstream_master_ip"⟩ { required := ipscMode = "PEER" }
  let upstreamPort ← firstInt ⟨upstream, "ipsc_upstream", "master_port"⟩
    ⟨ipsc, "ipsc", "upstream_master_port"⟩
    { required := ipscMode = "PEER", minVal := some 0, maxVal := some 65535 }
  let upstreamId ← firstInt ⟨upstream, "ipsc_upstream", "master_id"⟩
    ⟨ipsc, "ipsc", "upstream_master_id"⟩
    { required := false, minVal := some 0, maxVal := some 0xFFFFFFFF }
  checkUpstream printable ipscMode upstreamIp upstreamPort
  let peerAliveInterval ← firstInt ⟨ipsc, "ipsc", "keepalive_interval"⟩
    ⟨ipsc, "ipsc", "peer_alive_interval"⟩
    { required := false, default := 5, minVal := some 1, maxVal := some 300 }
  let maxMissed ← getInt ipsc "ipsc" "max_missed"
    { required := false, default := 3, minVal := some 1, maxVal := some 1000 }
  let peerListAllowUnknown ← getBool ipsc "ipsc" "peer_list_allow_unknown"
    { required := false, default := ipscMode = "PEER" }
  let peerListPrune ← getBool ipsc "ipsc" "peer_list_prune" { required := false, default := true }
  let reflectSuppression ← getBool ipsc "ipsc" "reflect_suppression" { required := false }
  let reflectWindow ← getInt ipsc "ipsc" "reflect_window"
    { required := false, default := 8, minVal := some 0, maxVal := some 60 }
  let busySlotGuard ← getBool ipsc "ipsc" "busy_slot_guard" { required := false, default := true }
  let busyHoldoffMs ← getInt ipsc "ipsc" "busy_holdoff_ms"
    { required := false, default := 100, minVal := some 0, maxVal := some 5000 }
  let callLock ← getBool ipsc "ipsc" "call_lock" { required := false, default := true }
  let callLockHangMs ← getInt ipsc "ipsc" "call_lock_hang_ms"
    { required := false, default := 250, minVal := some 0, maxVal := some 5000 }
  let callLockSameTgOnly ← getBool ipsc "ipsc" "call_lock_same_tg_only"
    { required := false, default := true }
  let packetFlow ← getStr printable compat "compat" "packet_flow"
    { required := false, default := "PACKET_TRANSLATOR", choices := some validPacketFlows }
  let hbpMasterIp ← getStr printable hbp "hbp" "master_ip" {}
  let hbpMasterPort ← getInt hbp "hbp" "master_port" { minVal := some 1, maxVal := some 65535 }
  let hbpMode ← getStr printable hbp "hbp" "hbp_mode"
    { required := false, default := "TRACKING", choices := some validHbpModes }
  let hbpRepeaterId ← getInt hbp "hbp" "hbp_repeater_id"
    { required := false, minVal := some 0, maxVal := some 0xFFFFFFFF }
  let hbpToIpscPacing ← getBool hbp "hbp" "hbp_to_ipsc_pacing" { required := false, default := true }
  let hbpToIpscFrameIntervalMs ← getInt hbp "hbp" "hbp_to_ipsc_frame_interval_ms"
    { required := false, default := 60, minVal := some 10, maxVal := some 250 }
  let hbpToIpscQueueLimit ← getInt hbp "hbp" "hbp_to_ipsc_queue_limit"
    { required := false, default := 512, minVal := some 10, maxVal := some 5000 }
  let hbpStartOnVoice ← getBool hbp "hbp" "hbp_start_on_voice" { required := false, default := true }
  let hbpToIpscHeaderRepeats ← getInt hbp "hbp" "hbp_to_ipsc_header_repeats"
    { required := false, default := 3, minVal := some 1, maxVal := some 5 }
  let rawPassphrase ← getStr printable hbp "hbp" "passphrase" {}
  let options ← getStr printable hbp "hbp" "options" { required := false }
  let callsign ← getStr printable hbp "hbp" "callsign" { required := false, default := "NOCALL" }
  let rxFreq ← getStr printable hbp "hbp" "rx_freq" { required := false, default := "000000000" }
  let txFreq ← getStr printable hbp "hbp" "tx_freq" { required := false, default := "000000000" }
  let txPower ← getStr printable hbp "hbp" "tx_power" { required := false, default := "00" }
  let colorcode ← getStr printable hbp "hbp" "colorcode" { required := false, default := "01" }
  let latitude ← getStr printable hbp "hbp" "latitude" { required := false, default := "00.0000 " }
  let longitude ← getStr printable hbp "hbp" "longitude" { required := false, default := "000.0000 " }
  let height ← getStr printable hbp "hbp" "height" { required := false, default := "000" }
  let location ← getStr printable hbp "hbp" "location" { required := false }
  let description ← getStr printable hbp "hbp" "description" { required := false }
  let url ← getStr printable hbp "hbp" "url" { required := false }
  let softwareId ← getStr printable hbp "hbp" "software_id" { required := false, default := "ipsc2hbp" }
  let packageId ← getStr printable hbp "hbp" "package_id" { required := false, default := "1.0.0" }
  let resolvedRepeaterId := if hbpRepeaterId ≠ 0 then hbpRepeaterId else ipscPeerId
  Checked.reportIf (resolvedRepeaterId = 0)
    ("At least one of [ipsc] ipsc_peer_id or [hbp] hbp_repeater_id must be set; " ++
      "HBP requires a radio ID to connect with")
  let ipscSourceId := if ipscMode = "MASTER" then ipscMasterId else ipscPeerId
  return {
    logLevel, ipscBindIp, ipscBindPort := ipscBindPort.toNat, hbpMasterIp
    hbpMasterPort := hbpMasterPort.toNat
    ipscMode := if ipscMode = "MASTER" then .master else .peer
    ipscMasterId := ipscMasterId.toNat, ipscPeerId := ipscPeerId.toNat
    ipscSourceId := ipscSourceId.toNat, allowedPeerIp, authEnabled, authKey, keepaliveWatchdog
    ipscUpstreamMasterIp := upstreamIp
    ipscUpstreamMasterPort := UInt16.ofNat upstreamPort.toNat
    ipscUpstreamMasterId := upstreamId.toNat, ipscPeerAliveInterval := peerAliveInterval
    ipscMaxMissed := maxMissed, ipscPeerListAllowUnknown := peerListAllowUnknown
    ipscPeerListPrune := peerListPrune, ipscReflectSuppression := reflectSuppression
    ipscReflectWindow := reflectWindow, ipscBusySlotGuard := busySlotGuard
    ipscBusyHoldoffMs := busyHoldoffMs, ipscCallLock := callLock, ipscCallLockHangMs := callLockHangMs
    ipscCallLockSameTgOnly := callLockSameTgOnly
    compatPacketFlow := if packetFlow = "LEGACY_AMBE" then .legacyAmbe else .packetTranslator
    hbpRepeaterId := resolvedRepeaterId.toNat
    hbpPassphrase := rawPassphrase.toList.flatMap String.utf8EncodeChar
    hbpMode := if hbpMode = "PERSISTENT" then .persistent else .tracking
    hbpToIpscPacing, hbpToIpscFrameIntervalMs, hbpToIpscQueueLimit, hbpStartOnVoice
    hbpToIpscHeaderRepeats, options, callsign, rxFreq, txFreq, txPower, colorcode, latitude, longitude
    height, location, description, url, softwareId, packageId }

/-- What `load` raises for a file that can be read. -/
inductive LoadError where
  | configurationErrors (errors : List String)
  | embeddedNull
  deriving DecidableEq, Repr

/-- The text of a `ValueError` from `load`. -/
def LoadError.text : LoadError → String
  | .configurationErrors errors =>
      "Configuration errors:\n" ++ "\n".intercalate (errors.map fun error => "  " ++ error)
  | .embeddedNull => "embedded null character"

/-- `inet_aton` raises at once for an address with a null character. -/
def LoadedConfig.nullAddress (cfg : LoadedConfig) : Bool :=
  let address := if cfg.ipscMode = .master then cfg.allowedPeerIp else cfg.ipscUpstreamMasterIp
  address.toList.contains (Char.ofNat 0)

/-- `load`, from the parsed file on -/
def load (printable : Char → Bool) (raw : TomlFile) : Except LoadError LoadedConfig :=
  let checked := loadChecked printable raw
  if checked.value.nullAddress then .error .embeddedNull
  else checked.result.mapError .configurationErrors

end Ipsc2Hbp
