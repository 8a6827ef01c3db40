import EnumHeader.Proofs.Machine.Word
import EnumHeader.Proofs.Model.Membership
import EnumHeader.Proofs.Width

/-!
# Widths in machine arithmetic

The widths of fields and the range of a storage type, computed on words: the length of a numeral from
its leading zeros, the distance of two values as a difference that wraps, and bounds from a shifted
bit. None of these steps is a trap for values of 128 bits, and the results are those of the exact
computation.
-/

namespace EnumHeader.Machine

set_option autoImplicit false

open Outcome (bind_of_ok)

section Definitions

def storageBits (word : Word) : Checked Nat :=
  subCounts 128 word.clz.toNat

/-- The distance of two values, which may have no signed value of its own. -/
def distance (min max : Int) : Word :=
  toWord max - toWord min

def transmissionBits (kind : Kind) (min max : Int) : Checked Nat :=
  match kind with
  | .value => storageBits (distance min max)
  | .flags => storageBits (toWord (Max.max max 0))

/-- The width that a positive bound asks for: that of its numeral, and a sign bit if the largest
value below the highest digit is smaller than the bound. -/
def positiveBits (max : Int) : Checked Nat :=
  if 0 < max then do
    let bits ← storageBits (toWord max)
    let exponent ← subCounts bits 1
    let power ← shiftLeft 1 exponent
    let limit ← subWords power 1
    if limit < toWord max then addCounts bits 1 else return bits
  else return 0

/-- The width that a negative bound asks for. It is moved towards zero before its sign is turned. -/
def negativeBits (min : Int) : Checked Nat :=
  if min < 0 then do
    let next ← signed (min + 1)
    let complement ← signed (-next)
    let bits ← storageBits (toWord complement)
    addCounts bits 1
  else return 0

def signedBits (min max : Int) : Checked Nat := do
  let positive ← positiveBits max
  let negative ← negativeBits min
  return Nat.max positive negative

def valueBits (isSigned : Bool) (min max : Int) : Checked Nat :=
  if isSigned then signedBits min max else storageBits (toWord (Max.max max 0))

def signedRange (bits : Nat) : Checked (Int × Int) :=
  if bits = 128 then return (Integer.least, Integer.greatest)
  else do
    let exponent ← subCounts bits 1
    let half ← shiftLeft 1 exponent
    let lowest ← signed (-half.toInt)
    let highest ← signed (half.toInt - 1)
    return (lowest, highest)

/-- The largest value of all is that of 127 bits, also for a wider type. -/
def unsignedRange (bits : Nat) : Checked (Int × Int) :=
  if 127 ≤ bits then return (0, Integer.greatest)
  else do
    let power ← shiftLeft 1 bits
    let highest ← signed (power.toInt - 1)
    return (0, highest)

def range (sizeType : SizeType) : Checked (Int × Int) :=
  if sizeType.signed then signedRange sizeType.effectiveBits
  else unsignedRange sizeType.effectiveBits

end Definitions

theorem width_add_leading_zeros (word : Word) :
    Width.ofNat word.toNat + word.clz.toNat = 128 := by
  have most : word.clz.toNat ≤ 128 := BitVec.le_def.1 word.clz_le
  apply Nat.le_antisymm
  · have below : word.toNat < 2 ^ (128 - word.clz.toNat) := BitVec.toNat_lt_two_pow_sub_clz
    have narrow := (Width.of_nat_le_iff word.toNat (128 - word.clz.toNat)).2 below
    omega
  · by_cases zero : word = 0
    · have all : word.clz.toNat = 128 := by
        rw [zero]
        rfl
      omega
    · have above := BitVec.two_pow_sub_clz_le_toNat_of_ne_zero (by decide) zero
      have fewer : word.clz.toNat < 128 := BitVec.lt_def.1 (BitVec.clz_lt_iff_ne_zero.2 zero)
      have wide := mt (Width.of_nat_le_iff word.toNat (128 - 1 - word.clz.toNat)).1 (Nat.not_lt.2 above)
      omega

theorem width_of_word_le (word : Word) : Width.ofNat word.toNat ≤ 128 := by
  have sum := width_add_leading_zeros word
  omega

theorem storage_bits_eq (word : Word) : storageBits word = .ok (Width.ofNat word.toNat) := by
  have sum := width_add_leading_zeros word
  rw [storageBits, sub_counts_of_le (by omega)]
  congr 1
  omega

theorem storage_bits_of_nonneg {value : Int} (nonneg : 0 ≤ value) (fits : Integer.Fits value) :
    storageBits (toWord value) = .ok (Width.unsigned value) := by
  rw [storage_bits_eq, to_nat_of_nonneg nonneg fits, Width.unsigned]

theorem storage_bits_of_max {max : Int} (fits : Integer.Fits max) :
    storageBits (toWord (Max.max max 0)) = .ok (Width.unsigned max) := by
  have both : Integer.Fits (Max.max max 0) := by
    rcases Int.le_total max 0 with negative | nonneg
    · rw [Int.max_eq_right negative]
      decide
    · rwa [Int.max_eq_left nonneg]
  rw [storage_bits_of_nonneg (Int.le_max_right max 0) both, Width.unsigned, Width.unsigned]
  congr 2
  omega

theorem to_nat_distance (min max : Int) :
    (distance min max).toNat = Integer.pattern (max - min) := by
  have power : (2 : Nat) ^ 128 = Nat.pow 2 128 := rfl
  rw [distance, BitVec.toNat_sub, to_nat_to_word, to_nat_to_word]
  simp only [Integer.pattern, Integer.int_pow_eq]
  omega

theorem transmission_bits_eq (kind : Kind) (min : Int) {max : Int} (fits : Integer.Fits max) :
    transmissionBits kind min max = .ok (Width.transmission kind min max) := by
  cases kind with
  | value => rw [transmissionBits, storage_bits_eq, to_nat_distance, Width.transmission]
  | flags => rw [transmissionBits, storage_bits_of_max fits, Width.transmission]

/-- Below the highest digit there is always too little room, so that the sign bit is added. -/
theorem positive_bits_eq {max : Int} (fits : Integer.Fits max) :
    positiveBits max = .ok (if 0 < max then Width.ofNat max.toNat + 1 else 0) := by
  unfold positiveBits
  split_ifs with positive
  · have bits := storage_bits_of_nonneg positive.le fits
    have value := to_nat_of_nonneg positive.le fits
    have narrow := width_of_word_le (toWord max)
    rw [value] at narrow
    obtain ⟨wide, exact⟩ := Width.two_pow_le_of_positive (Int.pos_iff_toNat_pos.1 positive)
    have power := to_nat_power (Width.ofNat max.toNat - 1) (by omega)
    have least : 0 < 2 ^ (Width.ofNat max.toNat - 1) := Nat.two_pow_pos _
    have below : (1 : Word).toNat ≤ ((1 : Word) <<< (Width.ofNat max.toNat - 1)).toNat := by
      rw [power, to_nat_one]
      omega
    have limit : ((1 : Word) <<< (Width.ofNat max.toNat - 1) - 1) < toWord max := by
      rw [BitVec.lt_def, BitVec.toNat_sub_of_le (BitVec.le_def.2 below), power, to_nat_one,
        value]
      omega
    rw [bind_of_ok bits, Width.unsigned, bind_of_ok (sub_counts_of_le wide),
      bind_of_ok (shift_left_of_lt (by omega) 1), bind_of_ok (sub_words_of_le below),
      if_pos limit, add_counts_of_lt (by omega)]
  · rfl

theorem negative_bits_eq {min : Int} (fits : Integer.Fits min) :
    negativeBits min = .ok (if min < 0 then Width.ofNat (-(min + 1)).toNat + 1 else 0) := by
  unfold negativeBits
  split_ifs with negative
  · obtain ⟨low, high⟩ := Integer.fits_iff.1 fits
    have next : Integer.Fits (min + 1) := Integer.fits_iff.2 ⟨by omega, by omega⟩
    have complement : Integer.Fits (-(min + 1)) := Integer.fits_iff.2 ⟨by omega, by omega⟩
    have narrow := width_of_word_le (toWord (-(min + 1)))
    rw [to_nat_of_nonneg (by omega) complement] at narrow
    rw [bind_of_ok (signed_of_fits next), bind_of_ok (signed_of_fits complement),
      bind_of_ok (storage_bits_of_nonneg (by omega) complement), Width.unsigned,
      add_counts_of_lt (by omega)]
  · rfl

theorem signed_bits_eq {min max : Int} (low : Integer.Fits min) (high : Integer.Fits max) :
    signedBits min max = .ok (Width.signed min max) := by
  rw [signedBits, bind_of_ok (positive_bits_eq high), bind_of_ok (negative_bits_eq low)]
  rfl

theorem value_bits_eq (isSigned : Bool) {min max : Int} (low : Integer.Fits min)
    (high : Integer.Fits max) :
    valueBits isSigned min max = .ok (Width.storage isSigned min max) := by
  cases isSigned with
  | true => exact signed_bits_eq low high
  | false => exact storage_bits_of_max high

theorem signed_range_eq {bits : Nat} (least : 1 ≤ bits) (most : bits ≤ 128) :
    signedRange bits = .ok (-2 ^ (bits - 1), 2 ^ (bits - 1) - 1) := by
  unfold signedRange
  split_ifs with full
  · rw [full]
    rfl
  · have half := to_int_power (bits - 1) (by omega)
    have power : (2 : Int) ^ (bits - 1) ≤ 2 ^ 127 := pow_le_pow_right₀ (by omega) (by omega)
    have positive : (0 : Int) < 2 ^ (bits - 1) := by positivity
    have lowest : Integer.Fits (-2 ^ (bits - 1)) := Integer.fits_iff.2 ⟨by omega, by omega⟩
    have highest : Integer.Fits (2 ^ (bits - 1) - 1) := Integer.fits_iff.2 ⟨by omega, by omega⟩
    rw [bind_of_ok (sub_counts_of_le least), bind_of_ok (shift_left_of_lt (by omega) 1), half,
      bind_of_ok (signed_of_fits lowest), bind_of_ok (signed_of_fits highest)]
    rfl

theorem unsigned_range_eq (bits : Nat) :
    unsignedRange bits = .ok (0, 2 ^ min bits 127 - 1) := by
  unfold unsignedRange
  split_ifs with wide
  · rw [Nat.min_eq_right wide]
    rfl
  · have power := to_int_power bits (by omega)
    have below : (2 : Int) ^ bits ≤ 2 ^ 127 := pow_le_pow_right₀ (by omega) (by omega)
    have positive : (0 : Int) < 2 ^ bits := by positivity
    have highest : Integer.Fits (2 ^ bits - 1) := Integer.fits_iff.2 ⟨by omega, by omega⟩
    rw [bind_of_ok (shift_left_of_lt (by omega) 1), power, bind_of_ok (signed_of_fits highest),
      Nat.min_eq_left (by omega)]
    rfl

theorem range_eq (sizeType : SizeType) :
    range sizeType = .ok (sizeType.lowest, sizeType.highest) := by
  unfold range
  split_ifs with isSigned
  · have bounds : 1 ≤ sizeType.effectiveBits ∧ sizeType.effectiveBits ≤ 128 := by
      unfold SizeType.effectiveBits
      omega
    rw [signed_range_eq bounds.1 bounds.2, SizeType.lowest, SizeType.highest, if_pos isSigned,
      if_pos isSigned]
    rfl
  · have unsigned : sizeType.signed = false := by simpa using isSigned
    rw [unsigned_range_eq, SizeType.lowest_of_unsigned unsigned,
      SizeType.highest_of_unsigned unsigned]

end EnumHeader.Machine
