import EnumHeader.Storage
import Mathlib.Tactic.Linarith

/-!
# Bit patterns

A bit pattern has 128 bits; it determines its value and is determined by it. The powers in the
bounds of integer types are turned into exponents here, which is the form that everything else
states them in.
-/

namespace EnumHeader

set_option autoImplicit false

@[simp]
theorem Integer.int_pow_eq (base : Int) (exponent : Nat) :
    Int.pow base exponent = base ^ exponent :=
  rfl

theorem Integer.fits_iff {value : Int} : Fits value ↔ -2 ^ 127 ≤ value ∧ value < 2 ^ 127 := by
  simp only [Fits, least, greatest, int_pow_eq]
  omega

theorem Integer.pattern_lt (value : Int) : pattern value < 2 ^ 128 := by
  simp only [pattern, int_pow_eq]
  omega

theorem Integer.pattern_of_nonneg {value : Int} (nonneg : 0 ≤ value) (inside : Fits value) :
    (pattern value : Int) = value := by
  have above := inside.2
  simp only [greatest, int_pow_eq] at above
  simp only [pattern, int_pow_eq]
  omega

theorem Integer.pattern_eq_zero_iff {value : Int} (inside : Fits value) :
    pattern value = 0 ↔ value = 0 := by
  obtain ⟨above, below⟩ := fits_iff.1 inside
  rw [pattern, int_pow_eq]
  omega

/-- The distance between two values needs no sign, so that 128 bits are enough for it. -/
theorem Integer.pattern_of_distance {min max : Int} (ordered : min ≤ max) (low : Fits min)
    (high : Fits max) : (pattern (max - min) : Int) = max - min := by
  have below := low.1
  have above := high.2
  simp only [least, int_pow_eq] at below
  simp only [greatest, int_pow_eq] at above
  simp only [pattern, int_pow_eq]
  omega

theorem Integer.of_pattern_of_lt {bits : Nat} (small : bits < 2 ^ 127) : ofPattern bits = bits :=
  if_pos small

theorem Integer.pattern_of_pattern {bits : Nat} (small : bits < 2 ^ 127) :
    pattern (ofPattern bits) = bits ∧ 0 ≤ ofPattern bits ∧ Fits (ofPattern bits) := by
  rw [of_pattern_of_lt small]
  simp only [pattern, Fits, least, greatest, int_pow_eq]
  omega

end EnumHeader
