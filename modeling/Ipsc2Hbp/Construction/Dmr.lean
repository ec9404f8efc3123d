import Ipsc2Hbp.Library.BigEndian

namespace Ipsc2Hbp
open BigEndian

/-- The embedded LC is a dictionary from fragment numbers to fragments. -/
abbrev EmbLc := Nat → Option Bits

/-- The bursts after the sync burst of a voice superframe. -/
inductive EmbBurst where
  | burstB
  | burstC
  | burstD
  | burstE
  | burstF
  deriving DecidableEq, Repr

/-- The functions and constants of the dmr_utils3 package that the translator calls. -/
structure DmrUtils where
  encodeHeaderLc : Bytes → Bits
  encodeTerminatorLc : Bytes → Bits
  encodeEmblc : Bytes → EmbLc
  decodeFullLc : Bits → Bits
  lcHeaderEncode : Bytes → Bytes
  lcTerminatorEncode : Bytes → Bytes
  convert49BitTo72BitAMBE : Bits → Bytes
  convert72BitTo49BitAMBE : Bits → Bits
  emb : EmbBurst → Bits
  slotTypeVoiceLcHead : Bits
  slotTypeVoiceLcTerm : Bits
  bsVoiceSync : Bits
  bsDataSync : Bits
  lcOpt : Bytes

/-- The documented widths of the results and constants. -/
structure DmrUtils.Documented (dmr : DmrUtils) : Prop where
  encodeHeaderLc_length : ∀ lc : Bytes, lc.length = 9 → (dmr.encodeHeaderLc lc).length = 196
  encodeTerminatorLc_length : ∀ lc : Bytes, lc.length = 9 → (dmr.encodeTerminatorLc lc).length = 196
  encodeEmblc_fragment : ∀ lc : Bytes, lc.length = 9 → ∀ fragment, 1 ≤ fragment → fragment ≤ 4 →
    ∃ bits, dmr.encodeEmblc lc fragment = some bits ∧ bits.length = 32
  decodeFullLc_length : ∀ codeword : Bits, codeword.length = 196 →
    (dmr.decodeFullLc codeword).length = 72
  lcHeaderEncode_length : ∀ lc : Bytes, lc.length = 9 → (dmr.lcHeaderEncode lc).length = 3
  lcTerminatorEncode_length : ∀ lc : Bytes, lc.length = 9 → (dmr.lcTerminatorEncode lc).length = 3
  convert49_length : ∀ ambe : Bits, ambe.length = 49 → (dmr.convert49BitTo72BitAMBE ambe).length = 9
  convert72_length : ∀ ambe : Bits, ambe.length = 72 → (dmr.convert72BitTo49BitAMBE ambe).length = 49
  emb_length : ∀ burst, (dmr.emb burst).length = 16
  slotTypeVoiceLcHead_length : dmr.slotTypeVoiceLcHead.length = 20
  slotTypeVoiceLcTerm_length : dmr.slotTypeVoiceLcTerm.length = 20
  bsVoiceSync_length : dmr.bsVoiceSync.length = 48
  bsDataSync_length : dmr.bsDataSync.length = 48
  lcOpt_length : dmr.lcOpt.length = 3

/-- The decoders undo the encoders. -/
structure DmrUtils.Inverts (dmr : DmrUtils) : Prop where
  decode_header : ∀ lc : Bytes, lc.length = 9 →
    dmr.decodeFullLc (dmr.encodeHeaderLc lc) = bytesToBits lc
  convert_ambe : ∀ ambe : Bits, ambe.length = 49 →
    dmr.convert72BitTo49BitAMBE (bytesToBits (dmr.convert49BitTo72BitAMBE ambe)) = ambe

end Ipsc2Hbp
