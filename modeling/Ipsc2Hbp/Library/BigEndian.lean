import Mathlib.Data.List.Basic
import Mathlib.Data.Fintype.Basic
import Mathlib.Tactic.IntervalCases

namespace BigEndian

abbrev Bytes := List UInt8
abbrev Bits := List Bool

/-- The bits of one byte, the most significant first. -/
def byteBits (byte : UInt8) : Bits :=
  let value := byte.toNat
  [value.testBit 7, value.testBit 6, value.testBit 5, value.testBit 4,
    value.testBit 3, value.testBit 2, value.testBit 1, value.testBit 0]

/-- The byte with the given bits, the most significant first. -/
def bitsByte (b7 b6 b5 b4 b3 b2 b1 b0 : Bool) : UInt8 :=
  UInt8.ofNat (128 * b7.toNat + 64 * b6.toNat + 32 * b5.toNat + 16 * b4.toNat +
    8 * b3.toNat + 4 * b2.toNat + 2 * b1.toNat + b0.toNat)

/-- The bits of a byte string in order. -/
def bytesToBits : Bytes → Bits
  | [] => []
  | byte :: rest => byteBits byte ++ bytesToBits rest

/-- The bytes of a bit string; a last incomplete byte is filled up with zeros. -/
def bitsToBytes : Bits → Bytes
  | b7 :: b6 :: b5 :: b4 :: b3 :: b2 :: b1 :: b0 :: rest =>
      bitsByte b7 b6 b5 b4 b3 b2 b1 b0 :: bitsToBytes rest
  | [] => []
  | b7 :: rest =>
      [bitsByte b7 (rest.getD 0 false) (rest.getD 1 false) (rest.getD 2 false)
        (rest.getD 3 false) (rest.getD 4 false) (rest.getD 5 false) false]

/-- A slice ends where its source ends. -/
@[simp] theorem extract_length {α : Type*} (items : List α) (start stop : Nat) :
    (items.extract start stop).length = min (stop - start) (items.length - start) := by
  rw [List.extract_eq_take_drop, List.length_take, List.length_drop]

/-- The slice between a front and a back part is the part in between. -/
theorem extract_middle {α : Type*} (front back : List α) {items middle : List α} {start stop : Nat}
    (parts : items = front ++ (middle ++ back)) (opens : front.length = start)
    (closes : start + middle.length = stop) : items.extract start stop = middle := by
  subst parts opens closes
  rw [List.extract_eq_take_drop, List.drop_left, Nat.add_sub_cancel_left, List.take_left]

@[simp] theorem byteBits_length (byte : UInt8) : (byteBits byte).length = 8 := rfl

@[simp] theorem bytesToBits_length (bytes : Bytes) :
    (bytesToBits bytes).length = 8 * bytes.length := by
  induction bytes with
  | nil => rfl
  | cons byte rest ih =>
      simp only [bytesToBits, List.length_append, byteBits_length, ih, List.length_cons]
      omega

theorem bytesToBits_append (first second : Bytes) :
    bytesToBits (first ++ second) = bytesToBits first ++ bytesToBits second := by
  induction first with
  | nil => rfl
  | cons byte rest ih => simp only [List.cons_append, bytesToBits, ih, List.append_assoc]

/-- A byte is the byte of its own bits. -/
theorem bitsByte_byteBits (byte : UInt8) :
    bitsByte (byte.toNat.testBit 7) (byte.toNat.testBit 6) (byte.toNat.testBit 5)
      (byte.toNat.testBit 4) (byte.toNat.testBit 3) (byte.toNat.testBit 2)
      (byte.toNat.testBit 1) (byte.toNat.testBit 0) = byte := by
  have all : ∀ n : Fin 256, bitsByte (n.val.testBit 7) (n.val.testBit 6) (n.val.testBit 5)
      (n.val.testBit 4) (n.val.testBit 3) (n.val.testBit 2) (n.val.testBit 1)
      (n.val.testBit 0) = UInt8.ofNat n.val := by decide +kernel
  have at_byte := all ⟨byte.toNat, byte.toNat_lt⟩
  simpa using at_byte

/-- The bits of a byte are the bits it was made of. -/
theorem byteBits_bitsByte (b7 b6 b5 b4 b3 b2 b1 b0 : Bool) :
    byteBits (bitsByte b7 b6 b5 b4 b3 b2 b1 b0) = [b7, b6, b5, b4, b3, b2, b1, b0] := by
  revert b7 b6 b5 b4 b3 b2 b1 b0
  decide +kernel

/-- Packing the bits of a byte string returns it. -/
@[simp] theorem bitsToBytes_bytesToBits (bytes : Bytes) : bitsToBytes (bytesToBits bytes) = bytes := by
  induction bytes with
  | nil => rfl
  | cons byte rest ih =>
      simp only [bytesToBits, byteBits, List.cons_append, List.nil_append, bitsToBytes, ih,
        bitsByte_byteBits]

/-- Whole bytes of a bit string unpack to it. -/
theorem bytesToBits_bitsToBytes (bits : Bits) (whole : 8 ∣ bits.length) :
    bytesToBits (bitsToBytes bits) = bits := by
  induction bits using bitsToBytes.induct with
  | case1 b7 b6 b5 b4 b3 b2 b1 b0 rest ih =>
      have tail : 8 ∣ rest.length := by
        simp only [List.length_cons] at whole
        omega
      simp only [bitsToBytes, bytesToBits, byteBits_bitsByte, ih tail, List.cons_append,
        List.nil_append]
  | case2 => rfl
  | case3 b7 rest short =>
      exfalso
      rcases rest with _ | ⟨b6, _ | ⟨b5, _ | ⟨b4, _ | ⟨b3, _ | ⟨b2, _ | ⟨b1, _ | ⟨b0, rest⟩⟩⟩⟩⟩⟩⟩
      all_goals first
        | exact short b6 b5 b4 b3 b2 b1 b0 rest rfl
        | (simp at whole)

/-- Whole bytes of a bit string have an eighth of its length. -/
theorem bitsToBytes_length (bits : Bits) (whole : 8 ∣ bits.length) :
    (bitsToBytes bits).length = bits.length / 8 := by
  have unpacked := congrArg List.length (bytesToBits_bitsToBytes bits whole)
  rw [bytesToBits_length] at unpacked
  omega

/-- The fixed-width bytes of a number, the most significant first. -/
def natToBytes : Nat → Nat → Bytes
  | 0, _ => []
  | width + 1, value => natToBytes width (value / 256) ++ [UInt8.ofNat value]

/-- The number that a byte string spells. -/
def bytesToNat (bytes : Bytes) : Nat :=
  bytes.foldl (fun value byte => 256 * value + byte.toNat) 0

@[simp] theorem natToBytes_length (width value : Nat) : (natToBytes width value).length = width := by
  induction width generalizing value with
  | zero => rfl
  | succ width ih => simp [natToBytes, ih]

theorem bytesToNat_concat (bytes : Bytes) (byte : UInt8) :
    bytesToNat (bytes ++ [byte]) = 256 * bytesToNat bytes + byte.toNat := by
  simp [bytesToNat]

/-- A number below the width's range is read back from its bytes. -/
theorem bytesToNat_natToBytes (width value : Nat) (fits : value < 256 ^ width) :
    bytesToNat (natToBytes width value) = value := by
  induction width generalizing value with
  | zero =>
      simp only [Nat.pow_zero, Nat.lt_one_iff] at fits
      subst fits
      rfl
  | succ width ih =>
      have smaller : value / 256 < 256 ^ width := by
        rw [Nat.pow_succ] at fits
        exact Nat.div_lt_of_lt_mul (by rwa [Nat.mul_comm])
      rw [natToBytes, bytesToNat_concat, ih _ smaller, UInt8.toNat_ofNat']
      omega

/-- A byte string is the fixed-width form of its number. -/
theorem natToBytes_bytesToNat (bytes : Bytes) : natToBytes bytes.length (bytesToNat bytes) = bytes := by
  induction bytes using List.reverseRecOn with
  | nil => rfl
  | append_singleton bytes byte ih =>
      have below := byte.toNat_lt
      have quotient : (256 * bytesToNat bytes + byte.toNat) / 256 = bytesToNat bytes := by omega
      rw [List.length_append, List.length_singleton, natToBytes, bytesToNat_concat, quotient, ih]
      congr 2
      apply UInt8.toNat_inj.mp
      rw [UInt8.toNat_ofNat']
      omega

end BigEndian
