import Mathlib.Data.List.DropRight
import Ipsc2Hbp.Proof.Load

namespace Ipsc2Hbp
open BigEndian

/-- A text of pairs of hexadecimal digits, with white space around the pairs, reads as bytes. -/
inductive HexReads : List Char → Bytes → Prop
  | nil : HexReads [] []
  | space {char : Char} {rest : List Char} {bytes : Bytes} (blank : isAsciiSpace char = true)
      (reads : HexReads rest bytes) : HexReads (char :: rest) bytes
  | pair {high low : Char} {top bot : Nat} {rest : List Char} {bytes : Bytes}
      (first : digitValue 16 high = some top) (second : digitValue 16 low = some bot)
      (reads : HexReads rest bytes) :
      HexReads (high :: low :: rest) (UInt8.ofNat (16 * top + bot) :: bytes)

/-- The number that the hexadecimal digits of a text spell, the most significant first. -/
def hexValue (chars : List Char) : Nat :=
  (chars.filterMap (digitValue 16)).foldl (fun value digit => 16 * value + digit) 0

/-- A hexadecimal digit has a value below 16 and lies between 0 and f. -/
theorem digitValue_bounds {char : Char} {digit : Nat} (read : digitValue 16 char = some digit) :
    digit < 16 ∧ 0x30 ≤ char.toNat ∧ char.toNat ≤ 0x66 := by
  unfold digitValue at read
  obtain ⟨named, below⟩ := Option.filter_eq_some_iff.mp read
  refine ⟨of_decide_eq_true below, ?_⟩
  split_ifs at named with decimal lower upper
  · have bounds : 0x30 ≤ char.toNat ∧ char.toNat ≤ 0x39 := decimal
    omega
  · have bounds : 0x61 ≤ char.toNat ∧ char.toNat ≤ 0x66 := lower
    omega
  · have bounds : 0x41 ≤ char.toNat ∧ char.toNat ≤ 0x46 := upper
    omega

/-- White space has no digits. -/
theorem digitValue_of_isSpace {char : Char} (blank : isSpace char = true) :
    digitValue 16 char = none := by
  cases read : digitValue 16 char with
  | none => rfl
  | some digit =>
      obtain ⟨-, low, high⟩ := digitValue_bounds read
      simp only [isSpace, Bool.or_eq_true, Bool.and_eq_true, decide_eq_true_eq] at blank
      omega

theorem isSpace_of_isAsciiSpace {char : Char} (blank : isAsciiSpace char = true) :
    isSpace char = true := by
  simp only [isAsciiSpace, isSpace, Bool.or_eq_true, Bool.and_eq_true, decide_eq_true_eq] at *
  omega

theorem isAsciiSpace_of_digit {char : Char} {digit : Nat} (read : digitValue 16 char = some digit) :
    isAsciiSpace char = false := by
  rw [Bool.eq_false_iff]
  intro blank
  rw [digitValue_of_isSpace (isSpace_of_isAsciiSpace blank)] at read
  cases read

/-- The scan reads exactly such a text. -/
theorem hexPairs_eq_ok_iff (pos : Nat) (chars : List Char) (bytes : Bytes) :
    hexPairs pos chars = .ok bytes ↔ HexReads chars bytes := by
  constructor
  · intro read
    induction pos, chars using hexPairs.induct generalizing bytes with
    | case1 pos =>
        obtain rfl := Except.ok.inj read
        exact .nil
    | case2 pos char blank =>
        rw [hexPairs, if_pos blank] at read
        obtain rfl := Except.ok.inj read
        exact .space blank .nil
    | case3 pos char solid unread | case4 pos char solid unread =>
        simp [hexPairs, solid, unread] at read
    | case5 pos char next rest blank ih =>
        rw [hexPairs, if_pos blank] at read
        exact .space blank (ih bytes read)
    | case6 pos char next rest solid unread => simp [hexPairs, solid, unread] at read
    | case7 pos char next rest solid top unread first => simp [hexPairs, solid, unread, first] at read
    | case8 pos char next rest solid top bot second first ih =>
        simp only [hexPairs, if_neg solid, first, second] at read
        cases later : hexPairs (pos + 2) rest with
        | error at_pos => rw [later] at read; cases read
        | ok others =>
            rw [later] at read
            obtain rfl := Except.ok.inj read
            exact .pair first second (ih others later)
  · intro reads
    induction reads generalizing pos with
    | nil => rfl
    | space blank reads ih =>
        cases reads with
        | nil => simp [hexPairs, blank]
        | space next | pair next => simp only [hexPairs, blank, if_true]; exact ih (pos + 1)
    | pair first second reads ih =>
        simp [hexPairs, isAsciiSpace_of_digit first, first, second, ih, Except.map]

/-- Two digits stand for each byte, and every other character is white space. -/
theorem HexReads.length {chars : List Char} {bytes : Bytes} (reads : HexReads chars bytes) :
    2 * bytes.length + chars.countP isAsciiSpace = chars.length := by
  induction reads with
  | nil => rfl
  | space blank reads ih =>
      rw [List.countP_cons_of_pos blank, List.length_cons]
      omega
  | pair first second reads ih =>
      rw [List.countP_cons_of_neg (by rw [isAsciiSpace_of_digit first]; exact Bool.false_ne_true),
        List.countP_cons_of_neg (by rw [isAsciiSpace_of_digit second]; exact Bool.false_ne_true)]
      simp only [List.length_cons]
      omega

/-- The bytes spell the number that the digits spell. -/
theorem HexReads.value {chars : List Char} {bytes : Bytes} (reads : HexReads chars bytes) :
    bytesToNat bytes = hexValue chars := by
  have onto : ∀ value, bytes.foldl (fun value byte => 256 * value + byte.toNat) value =
      (chars.filterMap (digitValue 16)).foldl (fun value digit => 16 * value + digit) value := by
    induction reads with
    | nil => exact fun _ => rfl
    | space blank reads ih =>
        rw [List.filterMap_cons_none (digitValue_of_isSpace (isSpace_of_isAsciiSpace blank))]
        exact ih
    | pair first second reads ih =>
        intro value
        rw [List.filterMap_cons_some first, List.filterMap_cons_some second]
        simp only [List.foldl_cons]
        rw [ih]
        have top := (digitValue_bounds first).1
        have bot := (digitValue_bounds second).1
        congr 1
        rw [UInt8.toNat_ofNat']
        omega
  exact onto 0

/-- Digits and white space stand in ASCII. -/
theorem HexReads.ascii {chars : List Char} {bytes : Bytes} (reads : HexReads chars bytes) :
    ∀ char ∈ chars, char.toNat < 128 := by
  induction reads with
  | nil => simp
  | @space char rest bytes blank reads ih =>
      have low : char.toNat < 128 := by
        simp only [isAsciiSpace, Bool.or_eq_true, Bool.and_eq_true, decide_eq_true_eq] at blank
        omega
      simpa using ⟨low, ih⟩
  | @pair high low top bot rest bytes first second reads ih =>
      have one := (digitValue_bounds first).2.2
      have two := (digitValue_bounds second).2.2
      have both : high.toNat < 128 ∧ low.toNat < 128 := by omega
      simpa using ⟨both.1, both.2, ih⟩

theorem fromhex_eq_ok_iff (text : String) (bytes : Bytes) :
    fromhex text = .ok bytes ↔ HexReads text.toList bytes := by
  unfold fromhex
  constructor
  · intro read
    split at read
    · cases read
    · exact (hexPairs_eq_ok_iff 0 _ bytes).mp read
  · intro reads
    have ascii : (text.toList.findIdx? fun char => 128 ≤ char.toNat) = none := by
      rw [List.findIdx?_eq_none_iff]
      intro char member
      exact decide_eq_false (Nat.not_le.mpr (reads.ascii char member))
    rw [ascii]
    exact (hexPairs_eq_ok_iff 0 _ bytes).mpr reads

theorem strip_toList (text : String) :
    (strip text).toList = (text.toList.dropWhile isSpace).rdropWhile isSpace := by
  rw [strip, String.toList_ofList]
  rfl

/-- A text that is stripped has no more white space at its ends. -/
theorem strip_strip (text : String) : strip (strip text) = strip text := by
  apply String.toList_inj.mp
  rw [strip_toList, strip_toList]
  have front : ((text.toList.dropWhile isSpace).rdropWhile isSpace).dropWhile isSpace =
      (text.toList.dropWhile isSpace).rdropWhile isSpace := by
    rw [List.dropWhile_eq_self_iff]
    intro inside
    have part := List.rdropWhile_prefix isSpace (text.toList.dropWhile isSpace)
    rw [part.getElem inside]
    exact List.dropWhile_get_zero_not _ _ _
  rw [front, List.rdropWhile_idempotent]

/-- Stripping takes no digits away. -/
theorem hexValue_strip (text : String) : hexValue (strip text).toList = hexValue text.toList := by
  have front (chars : List Char) :
      (chars.dropWhile isSpace).filterMap (digitValue 16) = chars.filterMap (digitValue 16) := by
    induction chars with
    | nil => rfl
    | cons char rest ih =>
        rw [List.dropWhile_cons]
        split
        case isTrue blank => rw [ih, List.filterMap_cons_none (digitValue_of_isSpace blank)]
        case isFalse => rfl
  unfold hexValue
  rw [strip_toList, List.rdropWhile, List.filterMap_reverse, front, List.filterMap_reverse,
    List.reverse_reverse, front]

/-- The zeros stand in front of the text or behind its sign. -/
theorem zfill_parts (width : Nat) (text : String) :
    ∃ sign rest, sign.filterMap (digitValue 16) = [] ∧ text.toList = sign ++ rest ∧
      (zfill width text).toList = sign ++ (List.replicate (width - text.length) '0' ++ rest) := by
  unfold zfill
  cases chars : text.toList with
  | nil => exact ⟨[], [], rfl, rfl, by simp⟩
  | cons first rest =>
      by_cases signed : first = '+' ∨ first = '-'
      · refine ⟨[first], rest, ?_, rfl, by simp [signed]⟩
        rcases signed with rfl | rfl <;> decide
      · exact ⟨[], first :: rest, rfl, rfl, by simp [signed]⟩

theorem zfill_length {width : Nat} {text : String} (short : text.length ≤ width) :
    (zfill width text).toList.length = width := by
  obtain ⟨sign, rest, -, parts, filled⟩ := zfill_parts width text
  have whole := congrArg List.length parts
  rw [String.length_toList, List.length_append] at whole
  rw [filled]
  simp only [List.length_append, List.length_replicate]
  omega

/-- Zeros are no white space. -/
theorem zfill_countP (width : Nat) (text : String) :
    (zfill width text).toList.countP isAsciiSpace = text.toList.countP isAsciiSpace := by
  obtain ⟨sign, rest, -, parts, filled⟩ := zfill_parts width text
  have zeros : (List.replicate (width - text.length) '0').countP isAsciiSpace = 0 := by
    rw [List.countP_replicate]
    exact if_neg (by decide)
  rw [filled, parts]
  simp only [List.countP_append, zeros, Nat.zero_add]

/-- Leading zeros do not change the number. -/
theorem hexValue_zfill (width : Nat) (text : String) :
    hexValue (zfill width text).toList = hexValue text.toList := by
  obtain ⟨sign, rest, unsigned, parts, filled⟩ := zfill_parts width text
  have zeros (count : Nat) : ((List.replicate count '0').filterMap (digitValue 16)).foldl
      (fun value digit => 16 * value + digit) 0 = 0 := by
    induction count with
    | zero => rfl
    | succ count ih => exact ih
  unfold hexValue
  rw [filled, parts]
  simp only [List.filterMap_append, unsigned, List.nil_append, List.foldl_append, zeros]

/-- A text that the loader reads as a key: short enough, and pairs of digits after the zeros. -/
def KeyText (text : String) : Prop :=
  (strip text).length ≤ 40 ∧ ∃ bytes, HexReads (zfill 40 (strip text)).toList bytes

/-- A key text is read, and any other is reported under the name of the key. -/
theorem loadAuthKey_cases (printable : Char → Bool) {ipsc : TomlTable} {text : String}
    (keyed : ipsc.lookup "auth_key" = some (.str text)) :
    (∃ bytes, (strip text).length ≤ 40 ∧ HexReads (zfill 40 (strip text)).toList bytes ∧
      loadAuthKey printable ipsc true = pure bytes) ∨
    (¬ KeyText text ∧
      ∃ reason, fieldError "ipsc" "auth_key" reason ∈ (loadAuthKey printable ipsc true).errors) := by
  have found : getStr printable ipsc "ipsc" "auth_key" {} = pure (strip text) := by
    simp only [getStr, keyed]
    rfl
  unfold loadAuthKey
  simp only [found, if_true, pure_bind, strip_strip]
  by_cases long : 40 < (strip text).length
  · refine .inr ⟨fun short => Nat.not_le_of_lt long short.1,
      "must be at most 40 hex characters", ?_⟩
    rw [if_pos long]
    exact List.mem_singleton_self _
  · rw [if_neg long]
    cases read : fromhex (zfill 40 (strip text)) with
    | ok bytes =>
        exact .inl ⟨bytes, Nat.le_of_not_lt long, (fromhex_eq_ok_iff _ bytes).mp read, rfl⟩
    | error pos =>
        refine .inr ⟨?_, "not valid hex: non-hexadecimal number " ++
          s!"found in fromhex() arg at position {pos}", List.mem_singleton_self _⟩
        rintro ⟨-, bytes, reads⟩
        rw [(fromhex_eq_ok_iff _ bytes).mpr reads] at read
        cases read

/-- The file enables the authentication with this text as the key. -/
structure KeyedBy (raw : TomlFile) (ipsc : TomlTable) (text : String) : Prop where
  section_ipsc : raw.lookup "ipsc" = some (.table ipsc)
  enabled : ipsc.lookup "auth_enabled" = some (.bool true)
  keyed : ipsc.lookup "auth_key" = some (.str text)

theorem requiredSection_table {raw : TomlFile} {name : String} {entries : TomlTable}
    (found : raw.lookup name = some (.table entries)) : requiredSection raw name = pure entries := by
  unfold requiredSection
  rw [found]
  rfl

theorem getBool_bool {sec : TomlTable} {key : String} {value : Bool}
    (found : sec.lookup key = some (.bool value)) (sectionName : String) (options : BoolOptions) :
    getBool sec sectionName key options = pure value := by
  unfold getBool
  rw [found]
  rfl

/-- The loader takes the key and the errors of its check over. -/
theorem KeyedBy.checked {raw : TomlFile} {ipsc : TomlTable} {text : String}
    (keyed : KeyedBy raw ipsc text) (printable : Char → Bool) :
    (loadChecked printable raw).value.authKey = (loadAuthKey printable ipsc true).value ∧
      ∀ error ∈ (loadAuthKey printable ipsc true).errors, error ∈ (loadChecked printable raw).errors := by
  let found := loadAuthKey printable (requiredSection raw "ipsc").value
    (getBool (requiredSection raw "ipsc").value "ipsc" "auth_enabled" { required := false }).value
  have same : found = loadAuthKey printable ipsc true := by
    change loadAuthKey printable _ (getBool (requiredSection raw "ipsc").value _ _ _).value = _
    rw [requiredSection_table keyed.section_ipsc, Checked.pure_value, getBool_bool keyed.enabled,
      Checked.pure_value]
  rw [← same]
  refine ⟨rfl, fun error listed => ?_⟩
  unfold loadChecked
  repeat first
    | exact Checked.mem_bind_first listed
    | apply Checked.mem_bind_next

/-- The key is 20 bytes long and the number that the digits of the text spell. -/
def KeyNormalised (authKey : Bytes) (text : String) : Prop :=
  authKey.length = 20 ∧ authKey = natToBytes 20 (hexValue text.toList)

/-- A text that is read as a key is normalised exactly when it has no white space inside. -/
theorem HexReads.normalised_iff {text : String} {bytes : Bytes} (short : (strip text).length ≤ 40)
    (reads : HexReads (zfill 40 (strip text)).toList bytes) :
    KeyNormalised bytes text ↔ ∀ char ∈ (strip text).toList, isAsciiSpace char = false := by
  have counted := reads.length
  rw [zfill_length short, zfill_countP] at counted
  have solid : (strip text).toList.countP isAsciiSpace = 0 ↔
      ∀ char ∈ (strip text).toList, isAsciiSpace char = false := by
    simp only [List.countP_eq_zero, Bool.not_eq_true]
  rw [← solid]
  constructor
  · rintro ⟨whole, -⟩
    omega
  · intro none
    have whole : bytes.length = 20 := by omega
    refine ⟨whole, ?_⟩
    rw [← hexValue_strip, ← hexValue_zfill 40 (strip text), ← reads.value, ← whole,
      natToBytes_bytesToNat]

/-- The accepted keys are normalised exactly when the text has no white space between its digits, and
every text that is no key text is reported. -/
theorem authKey_normalised_iff (printable : Char → Bool) {raw : TomlFile} {ipsc : TomlTable}
    {text : String} (keyed : KeyedBy raw ipsc text) :
    (∀ cfg, load printable raw = .ok cfg →
      (KeyNormalised cfg.authKey text ↔
        ∀ char ∈ (strip text).toList, isAsciiSpace char = false)) ∧
    (¬ KeyText text → load printable raw = .error .embeddedNull ∨
      ∃ errors reason, load printable raw = .error (.configurationErrors errors) ∧
        fieldError "ipsc" "auth_key" reason ∈ errors) := by
  obtain ⟨taken, reported⟩ := keyed.checked printable
  constructor
  · intro cfg accepted
    obtain ⟨accepts, rfl⟩ := load_eq_ok accepted
    rcases loadAuthKey_cases printable keyed.keyed with ⟨bytes, short, reads, read⟩ | ⟨-, reason, found⟩
    · rw [taken, read]
      exact reads.normalised_iff short
    · have listed := reported _ found
      rw [accepts] at listed
      cases listed
  · intro unread
    rcases loadAuthKey_cases printable keyed.keyed with ⟨bytes, short, reads, -⟩ | ⟨-, reason, found⟩
    · exact absurd ⟨short, bytes, reads⟩ unread
    · rcases load_of_error (reported _ found) with null | ⟨errors, refused, listed⟩
      · exact .inl null
      · exact .inr ⟨errors, reason, refused, listed⟩

/-- The smallest file with a key. -/
def keyTable (key : String) : TomlTable :=
  [("bind_ip", .str "0.0.0.0"), ("bind_port", .int 50000), ("ipsc_master_id", .int 1),
    ("auth_enabled", .bool true), ("auth_key", .str key)]

def keyFile (key : String) : TomlFile :=
  [("global", .table []), ("ipsc", .table (keyTable key)),
    ("hbp", .table [("master_ip", .str "127.0.0.1"), ("master_port", .int 62031),
      ("hbp_repeater_id", .int 1), ("passphrase", .str "secret")])]

theorem keyFile_keyed (key : String) : KeyedBy (keyFile key) (keyTable key) key := ⟨rfl, rfl, rfl⟩

/-- The key of the sample file is padded. -/
theorem authKey_normalised_iff_padded : ∃ cfg, load (fun _ => true) (keyFile "1A2B3C") = .ok cfg ∧
    KeyNormalised cfg.authKey "1A2B3C" := by
  have accepted : load (fun _ => true) (keyFile "1A2B3C") = .ok _ :=
    load_of_accepts (by decide +kernel) (by decide +kernel)
  have solid : ((strip "1A2B3C").toList.all fun char => isAsciiSpace char = false) = true := by
    decide +kernel
  refine ⟨_, accepted, ?_⟩
  exact ((authKey_normalised_iff (fun _ => true) (keyFile_keyed "1A2B3C")).1 _ accepted).mpr
    fun char member => of_decide_eq_true (List.all_eq_true.mp solid char member)

/-- A key with blanks between its bytes is accepted, one byte short. -/
theorem spaced_key_short : ∃ cfg, load (fun _ => true) (keyFile "12 34 56") = .ok cfg ∧
    cfg.authKey.length = 19 ∧ ¬ KeyNormalised cfg.authKey "12 34 56" := by
  have accepted : load (fun _ => true) (keyFile "12 34 56") = .ok _ :=
    load_of_accepts (by decide +kernel) (by decide +kernel)
  have short : (loadChecked (fun _ => true) (keyFile "12 34 56")).value.authKey.length = 19 := by
    decide +kernel
  refine ⟨_, accepted, short, fun normalised => ?_⟩
  rw [normalised.1] at short
  exact absurd short (by decide)

end Ipsc2Hbp
