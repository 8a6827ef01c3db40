import EnumHeader.Proofs.Integer
import EnumHeader.Width
import Mathlib.Data.Nat.Log

/-!
# Widths of fields

Which integers a bit-field holds, and what the computed widths mean in these terms: a width is at
most a number of bits exactly when a field of that many bits holds the extremes it was computed
from. Sufficiency and minimality are the two readings of this equivalence.
-/

namespace EnumHeader.Width

set_option autoImplicit false

/-- A bit-field of that signedness and width can hold the value. A signed field without any bit has
no sign bit either and holds zero only. -/
def FieldHolds (isSigned : Bool) (bits : Nat) (value : Int) : Prop :=
  if isSigned then
    (bits = 0 ∧ value = 0) ∨ (1 ≤ bits ∧ -2 ^ (bits - 1) ≤ value ∧ value < 2 ^ (bits - 1))
  else 0 ≤ value ∧ value < 2 ^ bits

instance (isSigned : Bool) (bits : Nat) (value : Int) :
    Decidable (FieldHolds isSigned bits value) :=
  inferInstanceAs (Decidable (ite _ _ _))

theorem FieldHolds.between {isSigned : Bool} {bits : Nat} {min max value : Int}
    (least : FieldHolds isSigned bits min) (greatest : FieldHolds isSigned bits max)
    (above : min ≤ value) (below : value ≤ max) : FieldHolds isSigned bits value := by
  cases isSigned with
  | true =>
      simp only [FieldHolds, if_true] at least greatest ⊢
      omega
  | false =>
      simp only [FieldHolds, Bool.false_eq_true, if_false] at least greatest ⊢
      omega

/-- Two values that one field holds are less than its number of values apart. -/
theorem FieldHolds.distance_lt {isSigned : Bool} {bits : Nat} {min max : Int}
    (least : FieldHolds isSigned bits min) (greatest : FieldHolds isSigned bits max) :
    max - min < 2 ^ bits := by
  cases isSigned with
  | false =>
      simp only [FieldHolds, Bool.false_eq_true, if_false] at least greatest
      omega
  | true =>
      simp only [FieldHolds, if_true] at least greatest
      cases bits with
      | zero =>
          -- without a sign bit both values are zero
          have power : (2 : Int) ^ 0 = 1 := pow_zero 2
          omega
      | succ bits =>
          have power : (2 : Int) ^ (bits + 1) = 2 ^ bits * 2 := pow_succ 2 bits
          rw [Nat.add_sub_cancel] at least greatest
          omega

theorem of_nat_le_iff (n bits : Nat) : ofNat n ≤ bits ↔ n < 2 ^ bits := by
  unfold ofNat
  split
  next zero =>
    have positive : 0 < 2 ^ bits := Nat.two_pow_pos bits
    omega
  next nonzero => exact Nat.log2_lt nonzero

theorem two_pow_le_of_positive {n : Nat} (positive : 0 < n) :
    1 ≤ ofNat n ∧ 2 ^ (ofNat n - 1) ≤ n := by
  have none := of_nat_le_iff n 0
  have shorter := of_nat_le_iff n (ofNat n - 1)
  omega

theorem unsigned_le_iff {max : Int} (nonneg : 0 ≤ max) (bits : Nat) :
    unsigned max ≤ bits ↔ FieldHolds false bits max := by
  rw [unsigned, of_nat_le_iff]
  simp only [FieldHolds, Bool.false_eq_true, if_false]
  zify
  omega

theorem positive_width_le_iff {max : Int} (positive : 0 < max) (bits : Nat) :
    ofNat max.toNat + 1 ≤ bits ↔ 1 ≤ bits ∧ max < 2 ^ (bits - 1) := by
  cases bits with
  | zero => omega
  | succ bits =>
      rw [Nat.succ_le_succ_iff, of_nat_le_iff, Nat.add_sub_cancel]
      zify
      omega

theorem negative_width_le_iff {min : Int} (negative : min < 0) (bits : Nat) :
    ofNat (-(min + 1)).toNat + 1 ≤ bits ↔ 1 ≤ bits ∧ -2 ^ (bits - 1) ≤ min := by
  cases bits with
  | zero => omega
  | succ bits =>
      rw [Nat.succ_le_succ_iff, of_nat_le_iff, Nat.add_sub_cancel]
      zify
      omega

theorem signed_le_iff {min max : Int} (ordered : min ≤ max) (bits : Nat) :
    signed min max ≤ bits ↔ FieldHolds true bits min ∧ FieldHolds true bits max := by
  have power : (0 : Int) < 2 ^ (bits - 1) := by positivity
  have both : signed min max ≤ bits ↔
      (if 0 < max then ofNat max.toNat + 1 else 0) ≤ bits ∧
        (if min < 0 then ofNat (-(min + 1)).toNat + 1 else 0) ≤ bits := Nat.max_le
  rw [both]
  simp only [FieldHolds, if_true]
  -- The widths of the two bounds are compared apart; a bound of the other sign asks for nothing.
  split_ifs with positive negative negative
  · rw [positive_width_le_iff positive, negative_width_le_iff negative]
    omega
  · rw [positive_width_le_iff positive]
    omega
  · rw [negative_width_le_iff negative]
    omega
  · omega

theorem storage_le_iff (isSigned : Bool) {min max : Int} (ordered : min ≤ max)
    (nonneg : isSigned = false → 0 ≤ min) (bits : Nat) :
    storage isSigned min max ≤ bits ↔
      FieldHolds isSigned bits min ∧ FieldHolds isSigned bits max := by
  cases isSigned with
  | true => exact signed_le_iff ordered bits
  | false =>
      have above : 0 ≤ min := nonneg rfl
      have width := unsigned_le_iff (above.trans ordered) bits
      simp only [storage, Bool.false_eq_true, if_false, width]
      constructor
      · intro greatest
        simp only [FieldHolds, Bool.false_eq_true, if_false] at greatest ⊢
        omega
      · exact And.right

/-- The distance of two entry values is sent, not its residue. -/
theorem transmission_le_iff {min max : Int} (ordered : min ≤ max) (low : Integer.Fits min)
    (high : Integer.Fits max) (bits : Nat) :
    transmission .value min max ≤ bits ↔ max - min < 2 ^ bits := by
  have distance := Integer.pattern_of_distance ordered low high
  rw [transmission, of_nat_le_iff]
  zify
  rw [distance]

end EnumHeader.Width
