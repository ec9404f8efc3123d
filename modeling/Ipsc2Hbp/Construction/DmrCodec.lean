import Ipsc2Hbp.Construction.Dmr
import Ipsc2Hbp.Library.DmrCodes

namespace Ipsc2Hbp
open BigEndian DmrCodes

/-- A word of a table, spelled by the number of its bits. -/
def tableWord (width value : Nat) : Bits := readBits width fun index => value.testBit (width - 1 - index)

/-- The masks of the RS(12,9) parity in a header and in a terminator. -/
def headerMask : UInt8 := 0x96
def terminatorMask : UInt8 := 0x99

/-- The codes of the DMR air interface in the shape of the dmr_utils3 package: an instance of what is
assumed of the package, not a copy of its code. -/
def dmrCodec : DmrUtils where
  encodeHeaderLc lc := bptcEncode (bytesToBits (lc ++ rs129 headerMask lc))
  encodeTerminatorLc lc := bptcEncode (bytesToBits (lc ++ rs129 terminatorMask lc))
  encodeEmblc lc fragment :=
    if 1 ≤ fragment ∧ fragment ≤ 4 then some (embFragmentOf lc fragment) else none
  decodeFullLc := bptcDecode
  lcHeaderEncode := rs129 headerMask
  lcTerminatorEncode := rs129 terminatorMask
  convert49BitTo72BitAMBE ambe := bitsToBytes (ambeEncode ambe)
  convert72BitTo49BitAMBE := ambeDecode
  emb
    | .burstB => tableWord 16 0x1391
    | .burstC => tableWord 16 0x1774
    | .burstD => tableWord 16 0x1774
    | .burstE => tableWord 16 0x1507
    | .burstF => tableWord 16 0x11e2
  slotTypeVoiceLcHead := tableWord 20 0x11b8c
  slotTypeVoiceLcTerm := tableWord 20 0x12a59
  bsVoiceSync := tableWord 48 0x755fd7df75f7
  bsDataSync := tableWord 48 0xdff57d75df5d
  lcOpt := [0x00, 0x00, 0x00]

/-- The codec has the documented widths. -/
theorem dmrCodec_documented : dmrCodec.Documented where
  encodeHeaderLc_length _ _ := readBits_length _ _
  encodeTerminatorLc_length _ _ := readBits_length _ _
  encodeEmblc_fragment lc _ fragment least most :=
    ⟨embFragmentOf lc fragment, if_pos ⟨least, most⟩, readBits_length _ _⟩
  decodeFullLc_length _ _ := readBits_length _ _
  lcHeaderEncode_length lc _ := rs129_length headerMask lc
  lcTerminatorEncode_length lc _ := rs129_length terminatorMask lc
  convert49_length ambe _ := by
    have sent := ambeEncode_length ambe
    simp only [dmrCodec]
    rw [bitsToBytes_length _ (by rw [sent]; decide), sent]
  convert72_length _ _ := readBits_length _ _
  emb_length burst := by cases burst <;> exact readBits_length _ _
  slotTypeVoiceLcHead_length := readBits_length _ _
  slotTypeVoiceLcTerm_length := readBits_length _ _
  bsVoiceSync_length := readBits_length _ _
  bsDataSync_length := readBits_length _ _
  lcOpt_length := rfl

/-- The decoders of the codec undo its encoders. -/
theorem dmrCodec_inverts : dmrCodec.Inverts where
  decode_header lc wide := by
    simp only [dmrCodec]
    have long : 72 ≤ (bytesToBits (lc ++ rs129 headerMask lc)).length := by
      rw [bytesToBits_length, List.length_append, wide]
      omega
    rw [bptcDecode_encode _ long, bytesToBits_append, List.take_left' (by simp [wide])]
  convert_ambe ambe wide := by
    simp only [dmrCodec]
    rw [bytesToBits_bitsToBytes _ (by rw [ambeEncode_length]; decide), ambeDecode_encode ambe wide]

end Ipsc2Hbp
