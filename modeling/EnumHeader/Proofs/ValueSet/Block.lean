import EnumHeader.Proofs.Machine.ValueSet

/-!
# Blocks of bits

A mask is a power of two times its odd part, and the odd part of a block has every bit up to its
highest. A mask that is not zero is therefore a block exactly when it is the difference of two powers
of two, whose exponents are where the block ends and where it starts.
-/

namespace EnumHeader.ValueSet

set_option autoImplicit false

variable {mask : Nat}

theorem odd_part_two_pow_mul (odd : mask % 2 = 1) (low : Nat) : oddPart (2 ^ low * mask) = mask := by
  induction low with
  | zero => rw [Nat.pow_zero, Nat.one_mul, odd_part_of_odd odd]
  | succ low ih =>
      have positive : 0 < 2 ^ low * mask := Nat.mul_pos (Nat.two_pow_pos low) (by omega)
      have double : 2 ^ (low + 1) * mask = 2 * (2 ^ low * mask) := by
        rw [Nat.pow_succ', Nat.mul_assoc]
      unfold oddPart
      rw [double, if_neg (by omega), if_pos (by omega), Nat.mul_div_cancel_left _ (by omega), ih]

theorem exists_odd_part (nonzero : mask ≠ 0) :
    ∃ low, mask = 2 ^ low * oddPart mask ∧ oddPart mask % 2 = 1 := by
  -- by halving, as the odd part is found
  induction mask using oddPart.induct with
  | case1 => exact absurd rfl nonzero
  | case2 mask _ even ih =>
      obtain ⟨low, split, odd⟩ := ih (by omega)
      have same : oddPart mask = oddPart (mask / 2) := by
        rw [oddPart, if_neg nonzero, if_pos even]
      refine ⟨low + 1, ?_, same ▸ odd⟩
      rw [same, Nat.pow_succ', Nat.mul_assoc, ← split]
      omega
  | case3 mask _ odd =>
      have same : oddPart mask = mask := odd_part_of_odd (by omega)
      exact ⟨0, by rw [same, Nat.pow_zero, Nat.one_mul], by omega⟩

/-- The odd part decides, and a block from the lowest bit on is full. -/
theorem is_block_iff_odd_part (odd : oddPart mask % 2 = 1) :
    isBlock mask = true ↔ ∃ height, oddPart mask = 2 ^ height - 1 := by
  constructor
  · intro block
    refine low_block_eq ?_ odd
    rwa [isBlock, odd_part_of_odd odd]
  · rintro ⟨height, full⟩
    have power : 0 < 2 ^ height := Nat.two_pow_pos height
    have next : oddPart mask + 1 = 2 ^ height := by omega
    have disjoint := (Nat.and_sub_one_eq_zero_iff_isPowerOfTwo power.ne').2 ⟨height, rfl⟩
    rw [isBlock, next, full, Nat.and_comm, disjoint]
    rfl

theorem two_pow_sub_two_pow (low height : Nat) :
    2 ^ (low + height) - 2 ^ low = 2 ^ low * (2 ^ height - 1) := by
  rw [Nat.mul_sub_one, Nat.pow_add]

theorem is_block_iff (mask : Nat) :
    isBlock mask = true ↔ mask = 0 ∨ ∃ low high, low < high ∧ mask = 2 ^ high - 2 ^ low := by
  constructor
  · intro block
    by_cases zero : mask = 0
    · exact .inl zero
    · obtain ⟨low, split, odd⟩ := exists_odd_part zero
      obtain ⟨height, full⟩ := (is_block_iff_odd_part odd).1 block
      have positive : height ≠ 0 := by
        rintro rfl
        omega
      refine .inr ⟨low, low + height, by omega, ?_⟩
      rw [two_pow_sub_two_pow, ← full]
      exact split
  · rintro (rfl | ⟨low, high, below, rfl⟩)
    · simp [isBlock, oddPart]
    · obtain ⟨height, rfl⟩ := Nat.exists_eq_add_of_lt below
      have odd : (2 ^ (height + 1) - 1) % 2 = 1 := by
        have power : 0 < 2 ^ height := Nat.two_pow_pos height
        rw [Nat.pow_succ]
        omega
      have same := odd_part_two_pow_mul odd low
      rw [Nat.add_assoc, two_pow_sub_two_pow, is_block_iff_odd_part (same.symm ▸ odd)]
      exact ⟨height + 1, same⟩

theorem high_le_of_lt {low high width : Nat} (below : low < high)
    (small : 2 ^ high - 2 ^ low < 2 ^ width) : high ≤ width := by
  by_contra beyond
  have half : 2 ^ low ≤ 2 ^ (high - 1) := Nat.pow_le_pow_right (by omega) (by omega)
  have double : 2 ^ high = 2 ^ (high - 1) * 2 := by
    rw [← Nat.pow_succ]
    congr 1
    omega
  have large : 2 ^ width ≤ 2 ^ (high - 1) := Nat.pow_le_pow_right (by omega) (by omega)
  omega

/-- The bits that values use are in one block exactly when there are none or they are those from one
position to another. Words of 128 bits give the same answer, also where a block reaches the last bit
and the successor of the shifted mask wraps. -/
theorem used_bits_in_block_iff (values : List Int) :
    Machine.isBlock (Machine.usedBits values) = .ok (isBlock (usedBits values)) ∧
      (isBlock (usedBits values) = true ↔
        usedBits values = 0 ∨
          ∃ low high, low < high ∧ high ≤ 128 ∧ usedBits values = 2 ^ high - 2 ^ low) := by
  constructor
  · rw [Machine.is_block_eq, Machine.to_nat_used_bits]
  · have small : usedBits values < 2 ^ 128 := used_bits_lt fun value _ => Integer.pattern_lt value
    rw [is_block_iff]
    refine or_congr_right (exists_congr fun low => exists_congr fun high => ?_)
    constructor
    · rintro ⟨below, same⟩
      rw [same] at small
      exact ⟨below, high_le_of_lt below small, same⟩
    · rintro ⟨below, -, same⟩
      exact ⟨below, same⟩

example : isBlock (usedBits [Integer.least, 2 ^ 126]) = true ∧ isBlock (usedBits [-1]) = true ∧
    isBlock (usedBits [Integer.least, 1]) = false := by
  decide +kernel

end EnumHeader.ValueSet
