import EnumHeader.Proofs.Cpp.Reading.Literal
import EnumHeader.Proofs.Validation.Requirement

/-!
# Values of literals

Integers that a cast brings into the storage type are only known up to a multiple of two to the
power of its width. That is enough for literals: the two halves of a wide one are put together to
the number that was split, and the storage type has only one value for it. So the literal of a value
that the type represents evaluates to that value, in each form that is chosen for it.
-/

namespace EnumHeader

set_option autoImplicit false

namespace SizeType

variable {sizeType : SizeType}

theorem wrap_congr {left right : Int} (same : left % 2 ^ sizeType.bits = right % 2 ^ sizeType.bits) :
    sizeType.wrap left = sizeType.wrap right := by
  unfold wrap
  rw [same]

theorem residue_congr {left right : Int}
    (same : left % 2 ^ sizeType.bits = right % 2 ^ sizeType.bits) :
    sizeType.residue left = sizeType.residue right := by
  unfold residue
  rw [same]

theorem wrap_mod (n : Int) : sizeType.wrap n % 2 ^ sizeType.bits = n % 2 ^ sizeType.bits := by
  unfold wrap
  split
  · rw [Int.sub_emod_right, Int.emod_emod]
  · rw [Int.emod_emod]

theorem residue_nat (n : Nat) : sizeType.residue n = n % 2 ^ sizeType.bits := by
  unfold residue
  have cast : (n : Int) % 2 ^ sizeType.bits = ((n % 2 ^ sizeType.bits : Nat) : Int) := by simp
  rw [cast, Int.toNat_natCast]

theorem wrap_of_represents (positive : 1 ≤ sizeType.bits) {value : Int}
    (represents : sizeType.Represents value) : sizeType.wrap value = value := by
  have double : (2 : Int) ^ sizeType.bits = 2 * 2 ^ (sizeType.bits - 1) := by
    rw [← pow_succ', Nat.sub_add_cancel positive]
  have power : (0 : Int) < 2 ^ (sizeType.bits - 1) := by positivity
  unfold Represents at represents
  unfold wrap
  split at represents
  next signed =>
    simp only [signed, true_and]
    by_cases negative : value < 0
    · have rest : value % 2 ^ sizeType.bits = value + 2 ^ sizeType.bits := by
        rw [← Int.add_emod_right, Int.emod_eq_of_lt (by omega) (by omega)]
      rw [rest, if_pos (by omega)]
      omega
    · have rest : value % 2 ^ sizeType.bits = value := Int.emod_eq_of_lt (by omega) (by omega)
      rw [rest, if_neg (by omega)]
  next unsigned =>
    rw [if_neg (fun both => unsigned both.1)]
    exact Int.emod_eq_of_lt represents.1 represents.2

theorem wide_of_represents {value : Int} (represents : sizeType.Represents value)
    (large : value < -2 ^ 63 ∨ 2 ^ 64 ≤ value) : 64 < sizeType.bits := by
  by_contra narrow
  have power : (2 : Int) ^ sizeType.bits ≤ 2 ^ 64 := pow_le_pow_right₀ (by omega) (by omega)
  have half : (2 : Int) ^ (sizeType.bits - 1) ≤ 2 ^ 63 := pow_le_pow_right₀ (by omega) (by omega)
  unfold Represents at represents
  split at represents <;> omega

/-- The upper part of a wide number keeps clear of the lower 64 bits. -/
theorem join_halves (wide : 64 ≤ sizeType.bits) (n : Nat) :
    sizeType.residue (n / 2 ^ 64 * 2 ^ 64 : Nat) ||| sizeType.residue (n % 2 ^ 64 : Nat) =
      n % 2 ^ sizeType.bits := by
  have split : 2 ^ sizeType.bits = 2 ^ 64 * 2 ^ (sizeType.bits - 64) := by
    rw [← pow_add, Nat.add_sub_cancel' wide]
  have low : n % 2 ^ 64 < 2 ^ 64 := Nat.mod_lt _ (by decide)
  have below : n % 2 ^ 64 < 2 ^ sizeType.bits :=
    lt_of_lt_of_le low (Nat.pow_le_pow_right (by decide) wide)
  have high : n / 2 ^ 64 * 2 ^ 64 % 2 ^ sizeType.bits =
      2 ^ 64 * (n / 2 ^ 64 % 2 ^ (sizeType.bits - 64)) := by
    rw [split, Nat.mul_comm, Nat.mul_mod_mul_left]
  rw [residue_nat, residue_nat, Nat.mod_eq_of_lt below, high,
    ← Nat.two_pow_add_eq_or_of_lt low, split, Nat.mod_mul, Nat.add_comm]

/-- Halves that have been cast to the type, shifted and joined there are the number they are of. -/
theorem wrap_of_halves (wide : 64 ≤ sizeType.bits) (n : Nat) :
    sizeType.wrap
        ((sizeType.residue (sizeType.wrap (sizeType.wrap (n / 2 ^ 64 : Nat) * 2 ^ 64)) |||
          sizeType.residue (sizeType.wrap (n % 2 ^ 64 : Nat)) : Nat) : Int) =
      sizeType.wrap n := by
  have shifted : sizeType.residue (sizeType.wrap (sizeType.wrap (n / 2 ^ 64 : Nat) * 2 ^ 64)) =
      sizeType.residue (n / 2 ^ 64 * 2 ^ 64 : Nat) := by
    apply residue_congr
    rw [wrap_mod, Int.mul_emod, wrap_mod, ← Int.mul_emod]
    norm_cast
  have plain : sizeType.residue (sizeType.wrap (n % 2 ^ 64 : Nat)) =
      sizeType.residue (n % 2 ^ 64 : Nat) := residue_congr (wrap_mod _)
  rw [shifted, plain, join_halves wide]
  exact wrap_congr (by simp)

theorem wrap_of_pattern (narrow : sizeType.bits ≤ 128) (value : Int) :
    sizeType.wrap (Integer.pattern value) = sizeType.wrap value := by
  have divides : (2 : Int) ^ sizeType.bits ∣ 2 ^ 128 := pow_dvd_pow 2 narrow
  have bits : (Integer.pattern value : Int) = value % 2 ^ 128 := by
    simp only [Integer.pattern, Integer.int_pow_eq]
    omega
  apply wrap_congr
  rw [bits, Int.emod_emod_of_dvd value divides]

end SizeType

namespace Cpp.Reading

variable {scope : Scope}

theorem evaluate_halves (wide : 64 ≤ scope.storage.bits) (n : Nat) :
    scope.evaluate (literalExpression (.ofHalves n Literal.underlying)) =
      some (.integer (scope.storage.wrap n)) := by
  have joined := SizeType.wrap_of_halves wide n
  simp only [Literal.ofHalves, Nat.pow_eq, literalExpression, castExpression, numberExpression,
    Scope.evaluate, if_true, Operator.apply, Option.bind_eq_bind, Option.bind_some]
  rw [← joined]
  rfl

theorem evaluate_decimal (value : Int) (suffix : Suffix) :
    scope.evaluate (literalExpression (.decimal value suffix)) = some (.integer value) := by
  cases value with
  | ofNat n => rfl
  | negSucc n =>
      simp only [literalExpression, numberExpression, Scope.evaluate]
      rfl

section Storage

variable {value : Int} (positive : 1 ≤ scope.storage.bits)
  (represents : scope.storage.Represents value)
include positive represents

theorem evaluate_of_int (narrow : scope.storage.bits ≤ 128) :
    scope.evaluate (literalExpression (.ofInt value Literal.underlying)) =
      some (.integer value) := by
  simp only [Literal.ofInt, Integer.int_pow_eq]
  split_ifs with leastInt _ _ leastLong
  · rw [leastInt]
    rfl
  · exact evaluate_decimal value .none
  · exact evaluate_decimal value .u
  · rw [leastLong]
    rfl
  · exact evaluate_decimal value .ll
  · exact evaluate_decimal value .ull
  · have wide := SizeType.wide_of_represents represents (by omega)
    rw [evaluate_halves wide.le, SizeType.wrap_of_pattern narrow,
      SizeType.wrap_of_represents positive represents]

theorem evaluate_of_mask {mask : Nat} (same : (mask : Int) = value) :
    scope.evaluate (literalExpression (.ofMask mask Literal.underlying)) =
      some (.integer value) := by
  simp only [Literal.ofMask, Nat.pow_eq]
  split_ifs with short long
  · rw [← same]
    rfl
  · rw [← same]
    rfl
  · have wide := SizeType.wide_of_represents represents (by omega)
    rw [evaluate_halves wide.le, same, SizeType.wrap_of_represents positive represents]

theorem evaluate_of_value (narrow : scope.storage.bits ≤ 128) {kind : Kind}
    (nonneg : kind = .flags → 0 ≤ value) (fits : Integer.Fits value) :
    scope.evaluate (literalExpression (.ofValue kind value)) = some (.integer value) := by
  cases kind with
  | value => exact evaluate_of_int positive represents narrow
  | flags =>
      exact evaluate_of_mask positive represents (Integer.pattern_of_nonneg (nonneg rfl) fits)

end Storage

theorem word_type_of_int (value : Int) : HasWordType (.ofInt value Literal.underlying) := by
  have word : IsWord Literal.underlying := by decide
  unfold Literal.ofInt
  split_ifs <;> first | exact word | trivial

theorem word_type_of_mask (mask : Nat) : HasWordType (.ofMask mask Literal.underlying) := by
  have word : IsWord Literal.underlying := by decide
  unfold Literal.ofMask
  split_ifs <;> first | exact word | trivial

theorem word_type_of_value (kind : Kind) (value : Int) : HasWordType (.ofValue kind value) := by
  cases kind with
  | value => exact word_type_of_int value
  | flags => exact word_type_of_mask _

end Cpp.Reading

end EnumHeader
