import Ipsc2Hbp.Library.BigEndian

namespace DmrCodes
open BigEndian

/-- A bit string is read off a function of its positions. -/
def readBits (width : Nat) (cell : Nat → Bool) : Bits := (List.range width).map cell

/-- The bit of a string at a position, false beyond its end. -/
def bitAt (bits : Bits) (position : Nat) : Bool := bits.getD position false

@[simp] theorem readBits_length (width : Nat) (cell : Nat → Bool) :
    (readBits width cell).length = width := by
  simp [readBits]

theorem bitAt_readBits {width position : Nat} (cell : Nat → Bool) (inside : position < width) :
    bitAt (readBits width cell) position = cell position := by
  simp [bitAt, readBits, inside]

/-- Two functions that agree on the positions spell the same string. -/
theorem readBits_congr {width : Nat} {cell other : Nat → Bool}
    (agree : ∀ position, position < width → cell position = other position) :
    readBits width cell = readBits width other :=
  List.map_congr_left fun position member => agree position (List.mem_range.mp member)

/-- A string is spelled by its own bits. -/
theorem readBits_bitAt (bits : Bits) : readBits bits.length (bitAt bits) = bits := by
  apply List.ext_getElem
  · simp
  · intro position _ inside
    simp [readBits, bitAt, inside]

/-- The parity of the bits at the given positions. -/
def parity (bit : Nat → Bool) (positions : List Nat) : Bool :=
  positions.foldl (fun sum position => sum ^^ bit position) false

/-- The check bits of the Hamming(16,11,4) code; its first four are those of Hamming(15,11,3). -/
def hamming16114 (bit : Nat → Bool) : Nat → Bool
  | 0 => parity bit [0, 1, 2, 3, 5, 7, 8]
  | 1 => parity bit [1, 2, 3, 4, 6, 8, 9]
  | 2 => parity bit [2, 3, 4, 5, 7, 9, 10]
  | 3 => parity bit [0, 1, 2, 4, 6, 7, 10]
  | _ => parity bit [0, 2, 5, 6, 8, 9, 10]

/-- The check bits of the Hamming(13,9,3) code. -/
def hamming1393 (bit : Nat → Bool) : Nat → Bool
  | 0 => parity bit [0, 1, 3, 5, 6]
  | 1 => parity bit [0, 1, 2, 4, 6, 7]
  | 2 => parity bit [0, 1, 2, 3, 5, 7, 8]
  | _ => parity bit [0, 2, 4, 5, 8]

section Bptc

/-- The information bits of the BPTC(196,96) matrix follow three reserved bits. -/
def bptcInfo (bits : Bits) (index : Nat) : Bool := if index < 3 then false else bitAt bits (index - 3)

/-- A row of the matrix ends with its check bits. -/
def bptcRow (bits : Bits) (row col : Nat) : Bool :=
  if col < 11 then bptcInfo bits (11 * row + col)
  else hamming16114 (fun position => bptcInfo bits (11 * row + position)) (col - 11)

/-- The matrix has nine rows of information and four of column checks. -/
def bptcCell (bits : Bits) (position : Nat) : Bool :=
  if position = 0 then false
  else
    let row := (position - 1) / 15
    let col := (position - 1) % 15
    if row < 9 then bptcRow bits row col
    else hamming1393 (fun row => bptcRow bits row col) (row - 9)

/-- The codeword interleaves the matrix: bit `i` of the matrix is sent at `181 * i mod 196`. -/
def bptcEncode (bits : Bits) : Bits := readBits 196 fun sent => bptcCell bits (13 * sent % 196)

/-- The place of an information bit in the codeword. -/
def bptcPlace (index : Nat) : Nat := 181 * (15 * ((index + 3) / 11) + (index + 3) % 11 + 1) % 196

/-- The first 72 information bits are read back from their places. -/
def bptcDecode (codeword : Bits) : Bits := readBits 72 fun index => bitAt codeword (bptcPlace index)

/-- The interleaver returns to the matrix position of an information bit. -/
theorem bptcPlace_inverse {index : Nat} (inside : index < 72) :
    13 * bptcPlace index % 196 = 15 * ((index + 3) / 11) + (index + 3) % 11 + 1 := by
  have all : ∀ index : Fin 72, 13 * bptcPlace index % 196 =
      15 * ((index.val + 3) / 11) + (index.val + 3) % 11 + 1 := by decide +kernel
  exact all ⟨index, inside⟩

/-- The matrix keeps every information bit. -/
theorem bptcCell_info (bits : Bits) {index : Nat} (inside : index < 72) :
    bptcCell bits (15 * ((index + 3) / 11) + (index + 3) % 11 + 1) = bitAt bits index := by
  have small : (index + 3) % 11 < 11 := Nat.mod_lt _ (by omega)
  have row : (15 * ((index + 3) / 11) + (index + 3) % 11 + 1 - 1) / 15 = (index + 3) / 11 := by omega
  have col : (15 * ((index + 3) / 11) + (index + 3) % 11 + 1 - 1) % 15 = (index + 3) % 11 := by omega
  have whole : 11 * ((index + 3) / 11) + (index + 3) % 11 = index + 3 := Nat.div_add_mod _ _
  unfold bptcCell
  simp only [row, col]
  rw [if_neg (by omega), if_pos (by omega), bptcRow, if_pos small, whole, bptcInfo, if_neg (by omega),
    Nat.add_sub_cancel]

/-- Decoding an encoded string returns its first 72 bits. -/
theorem bptcDecode_encode (bits : Bits) (long : 72 ≤ bits.length) :
    bptcDecode (bptcEncode bits) = bits.take 72 := by
  have prefixLength : (bits.take 72).length = 72 := by simp [long]
  have spelled := readBits_bitAt (bits.take 72)
  rw [prefixLength] at spelled
  rw [← spelled]
  apply readBits_congr
  intro index inside
  have sent : bptcPlace index < 196 := Nat.mod_lt _ (by omega)
  rw [bptcEncode, bitAt_readBits _ sent, bptcPlace_inverse inside, bptcCell_info bits inside]
  simp [bitAt, List.getD_eq_getElem?_getD, inside]

end Bptc

section ReedSolomon

/-- Multiplication by the generator of the field of 256 elements. -/
def gfDouble (value : UInt8) : UInt8 :=
  if value &&& 0x80 ≠ 0 then (value <<< 1) ^^^ 0x1d else value <<< 1

/-- The product in the field adds the doublings at the bits of the second factor. -/
def gfMul (value : UInt8) : Nat → Nat → UInt8
  | 0, _ => 0
  | rounds + 1, factor =>
      (if factor % 2 = 1 then value else 0) ^^^ gfMul (gfDouble value) rounds (factor / 2)

/-- One message byte moves through the division by the generator polynomial. -/
def rsStep (checks : UInt8 × UInt8 × UInt8) (byte : UInt8) : UInt8 × UInt8 × UInt8 :=
  let (first, second, third) := checks
  let carry := byte ^^^ third
  (gfMul carry 8 64, first ^^^ gfMul carry 8 56, second ^^^ gfMul carry 8 14)

/-- The three check bytes of RS(12,9), under the mask of the burst. -/
def rs129 (mask : UInt8) (message : Bytes) : Bytes :=
  let (first, second, third) := message.foldl rsStep (0, 0, 0)
  [third ^^^ mask, second ^^^ mask, first ^^^ mask]

theorem rs129_length (mask : UInt8) (message : Bytes) : (rs129 mask message).length = 3 := rfl

end ReedSolomon

section EmbeddedLc

/-- The five-bit checksum of an LC. -/
def csum5 (lc : Bytes) : Nat := (lc.map UInt8.toNat).sum % 31

/-- The information bits of the embedded LC take the checksum bits in between. -/
def embInfo (lc : Bytes) (index : Nat) : Bool :=
  let bits := bytesToBits lc
  if index < 32 then bitAt bits index
  else if (index - 32) % 11 = 0 then (csum5 lc).testBit (4 - (index - 32) / 11)
  else bitAt bits (index - (index - 32) / 11 - 1)

/-- A row of the embedded LC matrix ends with its check bits. -/
def embRow (lc : Bytes) (row col : Nat) : Bool :=
  if col < 11 then embInfo lc (11 * row + col)
  else hamming16114 (fun position => embInfo lc (11 * row + position)) (col - 11)

/-- The last row holds the parity of each column. -/
def embCell (lc : Bytes) (row col : Nat) : Bool :=
  if row < 7 then embRow lc row col else parity (fun row => embRow lc row col) [0, 1, 2, 3, 4, 5, 6]

/-- A fragment carries four columns of the matrix. -/
def embFragmentOf (lc : Bytes) (fragment : Nat) : Bits :=
  readBits 32 fun sent => embCell lc (sent % 8) (4 * (fragment - 1) + sent / 8)

end EmbeddedLc

section Ambe

/-- The rest of a division round of the Golay code, with the generator polynomial 0xAE3. -/
def golayRounds : Nat → Nat → Nat
  | 0, value => value
  | rounds + 1, value => golayRounds rounds ((if value % 2 = 1 then value ^^^ 0xAE3 else value) / 2)

/-- The Golay(23,12) codeword of twelve bits. -/
def golay2312 (value : Nat) : Nat := golayRounds 12 (value % 4096) * 4096 + value % 4096

/-- The number that twelve bits spell from a start on, the first bit lowest. -/
def twelveAt (bit : Nat → Bool) (start : Nat) : Nat :=
  (List.range 12).foldl (fun value index => value + 2 ^ index * (bit (start + index)).toNat) 0

/-- The sequence that scrambles the second code vector. -/
def scrambler (seed : Nat) : Nat → Nat
  | 0 => 16 * seed % 65536
  | round + 1 => (173 * scrambler seed round + 13849) % 65536

/-- The seed is the data of the first code vector, its first bit highest. -/
def scramblerSeed (bit : Nat → Bool) : Nat :=
  (List.range 12).foldl (fun value index => 2 * value + (bit index).toNat) 0

/-- The scrambling bit of a column of the second code vector. -/
def scramble (bit : Nat → Bool) (col : Nat) : Bool :=
  decide (32768 ≤ scrambler (scramblerSeed bit) (23 - col))

/-- The four code vectors of a voice frame. -/
def ambeCell (bit : Nat → Bool) : Nat → Nat → Bool
  | 0, col =>
      if 12 ≤ col then bit (23 - col)
      else
        let word := golay2312 (twelveAt bit 0)
        if col = 0 then parity word.testBit (List.range 23) else word.testBit (23 - col)
  | 1, col =>
      (if 11 ≤ col then bit (34 - col) else (golay2312 (twelveAt bit 12)).testBit (22 - col)) ^^
        scramble bit col
  | 2, col => bit (34 - col)
  | _, col => bit (48 - col)

/-- The interleaver: the code vector and column of each bit of a sent frame. -/
def ambeTable : List (Nat × Nat) :=
  [(0, 23), (0, 5), (1, 10), (2, 3), (0, 22), (0, 4), (1, 9), (2, 2), (0, 21), (0, 3), (1, 8), (2, 1),
    (0, 20), (0, 2), (1, 7), (2, 0), (0, 19), (0, 1), (1, 6), (3, 13), (0, 18), (0, 0), (1, 5), (3, 12),
    (0, 17), (1, 22), (1, 4), (3, 11), (0, 16), (1, 21), (1, 3), (3, 10), (0, 15), (1, 20), (1, 2), (3, 9),
    (0, 14), (1, 19), (1, 1), (3, 8), (0, 13), (1, 18), (1, 0), (3, 7), (0, 12), (1, 17), (2, 10), (3, 6),
    (0, 11), (1, 16), (2, 9), (3, 5), (0, 10), (1, 15), (2, 8), (3, 4), (0, 9), (1, 14), (2, 7), (3, 3),
    (0, 8), (1, 13), (2, 6), (3, 2), (0, 7), (1, 12), (2, 5), (3, 1), (0, 6), (1, 11), (2, 4), (3, 0)]

/-- A voice frame of 49 bits is sent in 72 bits. -/
def ambeEncode (ambe : Bits) : Bits :=
  ambeTable.map fun place => ambeCell (bitAt ambe) place.1 place.2

/-- The place in the sent frame of a code vector's column. -/
def ambePlace (row col : Nat) : Nat := ambeTable.idxOf (row, col)

/-- A voice bit of a sent frame, before the second code vector is unscrambled. -/
def ambeRaw (sent : Bits) (index : Nat) : Bool :=
  if index < 12 then bitAt sent (ambePlace 0 (23 - index))
  else if index < 24 then bitAt sent (ambePlace 1 (34 - index))
  else if index < 35 then bitAt sent (ambePlace 2 (34 - index))
  else bitAt sent (ambePlace 3 (48 - index))

/-- The voice bits of a sent frame. -/
def ambeDecode (sent : Bits) : Bits :=
  readBits 49 fun index =>
    if 12 ≤ index ∧ index < 24 then ambeRaw sent index ^^ scramble (ambeRaw sent) (34 - index)
    else ambeRaw sent index

theorem ambeEncode_length (ambe : Bits) : (ambeEncode ambe).length = 72 := by
  rw [ambeEncode, List.length_map]
  rfl

/-- A column of the table is found in the sent frame. -/
theorem bitAt_ambeEncode (ambe : Bits) {row col : Nat} (listed : (row, col) ∈ ambeTable) :
    bitAt (ambeEncode ambe) (ambePlace row col) = ambeCell (bitAt ambe) row col := by
  have inside : ambePlace row col < ambeTable.length := List.idxOf_lt_length_of_mem listed
  have found : ambeTable[ambePlace row col] = (row, col) := List.getElem_idxOf inside
  simp only [bitAt, ambeEncode, List.getD_eq_getElem?_getD, List.getElem?_map,
    List.getElem?_eq_getElem inside, found, Option.map_some, Option.getD_some]

/-- The scrambling depends only on the first twelve bits. -/
theorem scramble_congr {bit other : Nat → Bool} (agree : ∀ index, index < 12 → bit index = other index)
    (col : Nat) : scramble bit col = scramble other col := by
  have seeds : scramblerSeed bit = scramblerSeed other := by
    unfold scramblerSeed
    refine List.foldl_ext _ _ _ fun value index member => ?_
    rw [agree index (List.mem_range.mp member)]
  rw [scramble, scramble, seeds]

/-- Outside the second code vector a sent frame shows its voice bits as they are. -/
theorem ambeRaw_encode (ambe : Bits) {index : Nat} (inside : index < 49) :
    ambeRaw (ambeEncode ambe) index =
      if 12 ≤ index ∧ index < 24 then bitAt ambe index ^^ scramble (bitAt ambe) (34 - index)
      else bitAt ambe index := by
  have listed : ∀ index : Fin 49,
      (if index.val < 12 then (0, 23 - index.val) else if index.val < 24 then (1, 34 - index.val)
        else if index.val < 35 then (2, 34 - index.val) else (3, 48 - index.val)) ∈ ambeTable := by
    decide +kernel
  have here := listed ⟨index, inside⟩
  simp only at here
  unfold ambeRaw
  split_ifs at here ⊢ with first second middle third
  all_goals try omega
  · rw [bitAt_ambeEncode ambe here, ambeCell, if_pos (by omega)]
    congr 1
    omega
  · rw [bitAt_ambeEncode ambe here, ambeCell, if_pos (by omega)]
    congr 2
    omega
  · rw [bitAt_ambeEncode ambe here, ambeCell]
    congr 1
    omega
  · rw [bitAt_ambeEncode ambe here, ambeCell]
    · congr 1
      omega
    all_goals omega

/-- Decoding a sent frame returns its voice bits. -/
theorem ambeDecode_encode (ambe : Bits) (wide : ambe.length = 49) :
    ambeDecode (ambeEncode ambe) = ambe := by
  have spelled := readBits_bitAt ambe
  rw [wide] at spelled
  rw [← spelled]
  apply readBits_congr
  intro index inside
  rw [spelled]
  have seeds : ∀ index, index < 12 → ambeRaw (ambeEncode ambe) index = bitAt ambe index := by
    intro index small
    rw [ambeRaw_encode ambe (by omega), if_neg (by omega)]
  rw [scramble_congr seeds, ambeRaw_encode ambe inside]
  split_ifs with scrambled
  · rw [Bool.xor_assoc, Bool.xor_self, Bool.xor_false]
  · rfl

end Ambe

end DmrCodes
