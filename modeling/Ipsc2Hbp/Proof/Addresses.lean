import Ipsc2Hbp.Construction.IpscMaster
import Ipsc2Hbp.Proof.Load
import Ipsc2Hbp.Proof.PeerControl

namespace Ipsc2Hbp
open BigEndian

theorem digitValue_of_isDigit {char : Char} (digit : char.isDigit = true) :
    digitValue 10 char = some (char.toNat - '0'.toNat) := by
  have bounds := Char.isDigit_iff_toNat.mp digit
  have decimal : '0' ≤ char ∧ char ≤ '9' := bounds
  have below : char.toNat - '0'.toNat < 10 := by
    have high : char.toNat ≤ 57 := bounds.2
    have zero : '0'.toNat = 48 := rfl
    omega
  unfold digitValue
  rw [if_pos decimal, Option.filter_some, if_pos (decide_eq_true below)]

/-- A run of digits is read up to the first character that is none. -/
theorem readDigits_append (digits rest : List Char) (all : ∀ char ∈ digits, char.isDigit = true)
    (ends : ∀ char ∈ rest.head?, digitValue 10 char = none) (value : Nat) :
    readDigits 10 value (digits ++ rest) = (Nat.ofDigitChars 10 digits value, rest) := by
  induction digits generalizing value with
  | nil =>
      cases rest with
      | nil => rfl
      | cons char rest =>
          change readDigits 10 value (char :: rest) = _
          rw [readDigits, ends char rfl]
          rfl
  | cons digit digits ih =>
      rw [List.cons_append, readDigits, digitValue_of_isDigit (all digit List.mem_cons_self)]
      change readDigits 10 (10 * value + (digit.toNat - '0'.toNat)) (digits ++ rest) = _
      rw [ih (fun char member => all char (List.mem_cons_of_mem _ member)), Nat.ofDigitChars_cons]

/-- A number above zero is written without a leading zero. -/
theorem toDigits_head {number : Nat} (positive : 0 < number) :
    ∃ first digits, Nat.toDigits 10 number = first :: digits ∧ first ≠ '0' := by
  induction number using Nat.strongRecOn with
  | ind number ih =>
      by_cases small : number < 10
      · refine ⟨number.digitChar, [], Nat.toDigits_of_lt_base small, ?_⟩
        interval_cases number <;> decide
      · obtain ⟨first, digits, written, nonzero⟩ := ih (number / 10) (by omega) (by omega)
        rw [Nat.toDigits_of_base_le (by decide) (by omega), written]
        exact ⟨first, _, rfl, nonzero⟩

/-- A decimal number is read back. -/
theorem readNumber_toDigits (number : Nat) (rest : List Char)
    (ends : ∀ char ∈ rest.head?, char = '.') :
    readNumber (Nat.toDigits 10 number ++ rest) = some (number, rest) := by
  have plain : ∀ char ∈ rest.head?, digitValue 10 char = none := by
    intro char first
    rw [ends char first]
    decide
  have digits : ∀ char ∈ Nat.toDigits 10 number, char.isDigit = true :=
    fun char member => Nat.isDigit_of_mem_toDigits (by decide) (by decide) member
  have read := readDigits_append _ rest digits plain 0
  rw [Nat.ofDigitChars_ten_toDigits] at read
  by_cases zero : number = 0
  · subst zero
    rw [Nat.toDigits_zero] at read ⊢
    cases rest with
    | nil => rfl
    | cons mark rest =>
        obtain rfl := ends mark rfl
        cases rest <;> rfl
  · obtain ⟨first, others, written, nonzero⟩ := toDigits_head (Nat.pos_of_ne_zero zero)
    rw [written] at read digits ⊢
    have decimal := digitValue_of_isDigit (digits first List.mem_cons_self)
    rw [List.cons_append] at read ⊢
    unfold readNumber
    split
    case h_1 chars => exact absurd (List.head_eq_of_cons_eq chars) nonzero
    case h_2 chars => exact absurd (List.head_eq_of_cons_eq chars) nonzero
    case h_3 chars =>
      rw [← List.head_eq_of_cons_eq chars, decimal, read]
      rfl
    case h_4 chars => cases chars

/-- One number of an address is read, and the rest is left for the parts behind it. -/
theorem inetAtonParts_dot (dots : Nat) (front : Bytes) (byte : UInt8) (rest : List Char) :
    inetAtonParts (dots + 1) front ((toString byte.toNat).toList ++ '.' :: rest) =
      inetAtonParts dots (front ++ [byte]) rest := by
  have read : readNumber ((toString byte.toNat).toList ++ '.' :: rest) =
      some (byte.toNat, '.' :: rest) := by
    rw [Nat.toString_eq_ofList_toDigits, String.toList_ofList]
    exact readNumber_toDigits _ _ (by simp)
  have small : ¬ 0xff < byte.toNat := Nat.not_lt.mpr (Nat.le_of_lt_succ byte.toNat_lt)
  rw [inetAtonParts, read]
  simp only [if_neg small, UInt8.ofNat_toNat]

theorem inetAtonParts_last (front : Bytes) (byte : UInt8) (three : front.length = 3) :
    inetAtonParts 0 front (toString byte.toNat).toList = some (front ++ [byte]) := by
  have read : readNumber (toString byte.toNat).toList = some (byte.toNat, []) := by
    rw [Nat.toString_eq_ofList_toDigits, String.toList_ofList]
    simpa using readNumber_toDigits byte.toNat [] (by simp)
  have whole : natToBytes 1 byte.toNat = [byte] := by
    have back := natToBytes_bytesToNat [byte]
    rwa [show bytesToNat [byte] = byte.toNat by simp [bytesToNat]] at back
  have ends : (endsAddress [] && byte.toNat < 256 ^ (4 - front.length)) = true := by
    rw [three]
    exact decide_eq_true byte.toNat_lt
  rw [inetAtonParts, read]
  simp only [ends, if_true]
  rw [three, whole]

/-- A canonical address is read back. -/
theorem inetAton_ipv4Str (a b c d : UInt8) : inetAton (ipv4Str [a, b, c, d]) = some [a, b, c, d] := by
  have parts : (ipv4Str [a, b, c, d]).toList = (toString a.toNat).toList ++ '.' ::
      ((toString b.toNat).toList ++ '.' :: ((toString c.toNat).toList ++ '.' ::
        (toString d.toNat).toList)) := by
    change (toString a.toNat ++ "." ++ toString b.toNat ++ "." ++ toString c.toNat ++ "." ++
      toString d.toNat).toList = _
    simp only [String.toList_append, List.append_assoc]
    rfl
  unfold inetAton
  rw [parts, inetAtonParts_dot, inetAtonParts_dot, inetAtonParts_dot, inetAtonParts_last _ _ rfl]
  rfl

/-- An address has four bytes. -/
theorem inetAtonParts_length {dots : Nat} {front address : Bytes} {chars : List Char}
    (enough : dots + front.length = 3) (read : inetAtonParts dots front chars = some address) :
    address.length = 4 := by
  induction dots, front, chars using inetAtonParts.induct with
  | case1 dots front chars number => simp [inetAtonParts, number] at read
  | case2 front chars value rest number => simp [inetAtonParts, number] at read
  | case3 front chars value rest number dots large =>
      simp [inetAtonParts, number, large] at read
  | case4 front chars value rest number dots small ih =>
      rw [inetAtonParts, number] at read
      simp only [if_neg small] at read
      refine ih ?_ read
      rw [List.length_append, List.length_singleton]
      omega
  | case5 dots front chars value rest undotted number ends =>
      rw [inetAtonParts, number] at read
      simp only [ends, if_true, Option.some.injEq] at read
      rw [← read, List.length_append, natToBytes_length]
      omega
  | case6 dots front chars value rest undotted number ends =>
      rw [inetAtonParts, number] at read
      simp only [if_neg ends] at read
      cases read

theorem inetAton_length {text : String} {address : Bytes} (read : inetAton text = some address) :
    address.length = 4 := inetAtonParts_length rfl read

/-- Four decimal numbers below 256, without leading zeros and with dots between them. -/
def DottedQuad (text : String) : Prop := ∃ a b c d : UInt8, text = ipv4Str [a, b, c, d]

/-- A text is the canonical form of the address that it denotes exactly when it is a dotted quad. -/
theorem ipv4Str_eq_iff {text : String} {address : Bytes} (read : inetAton text = some address) :
    ipv4Str address = text ↔ DottedQuad text := by
  constructor
  · intro same
    obtain ⟨a, b, c, d, rfl⟩ := List.length_eq_four.mp (inetAton_length read)
    exact ⟨a, b, c, d, same.symm⟩
  · rintro ⟨a, b, c, d, rfl⟩
    rw [inetAton_ipv4Str] at read
    rw [← Option.some.inj read]

/-- A sender with the master's address is taken for the master exactly when the configured address is
spelled as a dotted quad. -/
theorem isMasterSource_denoted {cfg : Config} {address : Bytes}
    (denotes : inetAton cfg.ipscUpstreamMasterIp = some address) {peer : IpscPeer} {srcId : Nat}
    (acceptable : peer.masterId = 0 ∨ srcId = 0 ∨ srcId = peer.masterId) {opcode : UInt8}
    (masterSide : opcode ∈ IpscPeer.masterOpcodes) :
    peer.isMasterSource cfg srcId (ipv4Str address) opcode = true ↔
      DottedQuad cfg.ipscUpstreamMasterIp := by
  rw [← ipv4Str_eq_iff denotes]
  simp only [IpscPeer.isMasterSource, Bool.and_eq_true, Bool.or_eq_true, decide_eq_true_eq,
    List.contains_iff_mem, masterSide, or_assoc, acceptable, and_true]

/-- The sender of a datagram has a canonical address, as asyncio gives it for IPv4. -/
def CanonicalSender (event : IpscEvent) : Prop :=
  ∀ data host port now, event = .datagramReceived data (.inet host port) now → DottedQuad host

/-- Without a master to hear, no step registers. -/
theorem step_unregistered (digests : Digests) {cfg : Config}
    (misspelled : ¬ DottedQuad cfg.ipscUpstreamMasterIp) {event : IpscEvent}
    (canonical : CanonicalSender event) {peer : IpscPeer} (unregistered : peer.registered = false) :
    (peer.step digests cfg event).1.registered = false := by
  cases event with
  | connectionMade => exact unregistered
  | datagramReceived data addr now =>
      cases addr with
      | inet6 => exact unregistered
      | inet host port =>
          have foreign : (Addr.inet host port).host ≠ cfg.ipscUpstreamMasterIp := by
            intro same
            apply misspelled
            rw [← same]
            exact canonical data host port now rfl
          have kept := (peer.datagramReceived_foreign digests data foreign now).1
          exact (congrArg MasterControl.registered kept).trans unregistered
  | watchdog now =>
      change (peer.watchdog cfg now).1.registered = false
      simp only [IpscPeer.watchdog, unregistered, Bool.false_and, Bool.false_eq_true, if_false]
  | maintenance clock =>
      change (peer.maintenance digests cfg clock).1.registered = false
      simp only [IpscPeer.maintenance, unregistered, Bool.not_false, if_true]

/-- A bridge whose upstream address is spelled otherwise never registers with its master. -/
theorem never_registers (digests : Digests) {cfg : Config}
    (misspelled : ¬ DottedQuad cfg.ipscUpstreamMasterIp) (events : List IpscEvent)
    (canonical : ∀ event ∈ events, CanonicalSender event) (peer : IpscPeer)
    (unregistered : peer.registered = false) :
    ((ipscPeer digests cfg).run peer events).1.registered = false := by
  induction events generalizing peer with
  | nil => exact unregistered
  | cons event rest ih =>
      exact ih (fun later member => canonical later (List.mem_cons_of_mem _ member)) _
        (step_unregistered digests misspelled (canonical event List.mem_cons_self) unregistered)

/-- The other checks of `_on_reg_req` do not look at the allowed address. -/
theorem rejectsReg_eq (cfg : Config) (peerId : Bytes) (host : String) (master : IpscMaster) :
    master.rejectsReg cfg peerId host =
      ((cfg.allowedPeerIp ≠ "" && host ≠ cfg.allowedPeerIp) ||
        master.rejectsReg { cfg with allowedPeerIp := "" } peerId host) := by
  simp [IpscMaster.rejectsReg, Bool.or_assoc]

/-- A registration from the allowed address passes exactly when that address is spelled as a dotted
quad, as far as the other checks let it pass. -/
theorem rejectsReg_denoted {cfg : Config} {address : Bytes} (named : cfg.allowedPeerIp ≠ "")
    (denotes : inetAton cfg.allowedPeerIp = some address) {master : IpscMaster} {peerId : Bytes}
    (passes : master.rejectsReg { cfg with allowedPeerIp := "" } peerId (ipv4Str address) = false) :
    master.rejectsReg cfg peerId (ipv4Str address) = false ↔ DottedQuad cfg.allowedPeerIp := by
  rw [← ipv4Str_eq_iff denotes, rejectsReg_eq, passes]
  simp [named]

/-- In every accepted configuration a sender with the address of the upstream master is taken for the
master, and a registration from the allowed address is not refused for it, exactly when the address is
spelled as a dotted quad. -/
theorem acceptedAddress_matches_iff (printable : Char → Bool) {raw : TomlFile} {cfg : LoadedConfig}
    (accepted : load printable raw = .ok cfg) :
    (cfg.ipscMode = .peer → ∃ address, inetAton cfg.ipscUpstreamMasterIp = some address ∧
      ∀ (peer : IpscPeer) (srcId : Nat), ∀ opcode ∈ IpscPeer.masterOpcodes,
        (peer.masterId = 0 ∨ srcId = 0 ∨ srcId = peer.masterId) →
          (peer.isMasterSource cfg.toConfig srcId (ipv4Str address) opcode = true ↔
            DottedQuad cfg.ipscUpstreamMasterIp)) ∧
    (cfg.ipscMode = .master → cfg.allowedPeerIp ≠ "" →
      ∃ address, inetAton cfg.allowedPeerIp = some address ∧
        ∀ (master : IpscMaster) (peerId : Bytes),
          master.rejectsReg { cfg with allowedPeerIp := "" }.toConfig peerId (ipv4Str address) = false →
            (master.rejectsReg cfg.toConfig peerId (ipv4Str address) = false ↔
              DottedQuad cfg.allowedPeerIp)) := by
  obtain ⟨accepts, rfl⟩ := load_eq_ok accepted
  have valid := loadChecked_valid accepts
  constructor
  · intro inPeerMode
    obtain ⟨address, denotes⟩ := Option.isSome_iff_exists.mp (valid.upstreamMasterIp inPeerMode)
    exact ⟨address, denotes, fun _ _ _ masterSide acceptable =>
      isMasterSource_denoted denotes acceptable masterSide⟩
  · intro inMasterMode named
    obtain ⟨address, denotes⟩ := Option.isSome_iff_exists.mp (valid.allowedPeerIp inMasterMode named)
    exact ⟨address, denotes, fun _ _ passes => rejectsReg_denoted named denotes passes⟩

/-- The smallest file in PEER mode with the address of the upstream master. -/
def upstreamFile (masterIp : String) : TomlFile :=
  [("global", .table []),
    ("ipsc", .table [("mode", .str "PEER"), ("bind_ip", .str "0.0.0.0"), ("bind_port", .int 50000),
      ("ipsc_peer_id", .int 1)]),
    ("ipsc_upstream", .table [("master_ip", .str masterIp), ("master_port", .int 50000)]),
    ("hbp", .table [("master_ip", .str "127.0.0.1"), ("master_port", .int 62031),
      ("passphrase", .str "secret")])]

/-- The smallest file in MASTER mode with an allowed address. -/
def allowedFile (peerIp : String) : TomlFile :=
  [("global", .table []),
    ("ipsc", .table [("bind_ip", .str "0.0.0.0"), ("bind_port", .int 50000),
      ("ipsc_master_id", .int 1), ("allowed_peer_ip", .str peerIp)]),
    ("hbp", .table [("master_ip", .str "127.0.0.1"), ("master_port", .int 62031),
      ("hbp_repeater_id", .int 1), ("passphrase", .str "secret")])]

/-- The usual spelling is matched. -/
theorem acceptedAddress_matches_iff_quad :
    ∃ cfg, load (fun _ => true) (upstreamFile "10.0.0.1") = .ok cfg ∧
      (IpscPeer.initial cfg.toConfig).isMasterSource cfg.toConfig 7 "10.0.0.1" masterRegReply = true := by
  have accepted : load (fun _ => true) (upstreamFile "10.0.0.1") = .ok _ :=
    load_of_accepts (by decide +kernel) (by decide +kernel)
  refine ⟨_, accepted, ?_⟩
  obtain ⟨address, denotes, matched⟩ :=
    (acceptedAddress_matches_iff (fun _ => true) accepted).1 (by decide +kernel)
  have read : inetAton "10.0.0.1" = some address := denotes
  obtain rfl : [10, 0, 0, 1] = address := by
    rw [← Option.some.injEq, ← read]
    decide +kernel
  exact (matched _ 7 masterRegReply (by decide) (.inl (by decide +kernel))).mpr ⟨10, 0, 0, 1, rfl⟩

/-- An octal and a short spelling are accepted, and neither address is matched. -/
theorem octal_address_unmatched :
    (∃ cfg, load (fun _ => true) (upstreamFile "010.0.0.1") = .ok cfg ∧ cfg.ipscMode = .peer ∧
      inetAton cfg.ipscUpstreamMasterIp = some [8, 0, 0, 1] ∧
      (IpscPeer.initial cfg.toConfig).isMasterSource cfg.toConfig 7 (ipv4Str [8, 0, 0, 1])
        masterRegReply = false) ∧
    ∃ cfg, load (fun _ => true) (allowedFile "127.1") = .ok cfg ∧ cfg.ipscMode = .master ∧
      inetAton cfg.allowedPeerIp = some [127, 0, 0, 1] ∧
      ({} : IpscMaster).rejectsReg { cfg with allowedPeerIp := "" }.toConfig [0, 0, 0, 7]
        (ipv4Str [127, 0, 0, 1]) = false ∧
      ({} : IpscMaster).rejectsReg cfg.toConfig [0, 0, 0, 7] (ipv4Str [127, 0, 0, 1]) = true := by
  have upstream : load (fun _ => true) (upstreamFile "010.0.0.1") = .ok _ :=
    load_of_accepts (by decide +kernel) (by decide +kernel)
  have allowed : load (fun _ => true) (allowedFile "127.1") = .ok _ :=
    load_of_accepts (by decide +kernel) (by decide +kernel)
  exact ⟨⟨_, upstream, by decide +kernel, by decide +kernel, by decide +kernel⟩,
    ⟨_, allowed, by decide +kernel, by decide +kernel, by decide +kernel, by decide +kernel⟩⟩

end Ipsc2Hbp
