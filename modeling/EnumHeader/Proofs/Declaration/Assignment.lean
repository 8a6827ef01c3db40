import EnumHeader.Declaration.Resolve
import EnumHeader.Proofs.Width
import Mathlib.Data.List.Induction
import Mathlib.Data.Nat.Bitwise
import Mathlib.Order.Bounds.Defs

/-!
# The value that comes next

What an entry gets that states no value of its own, in terms of the values before it, and when
nothing is left for it. The bookkeeping keeps the last value and the union of all positive bits; of
this union only its width matters, and that is the width of the largest positive value.
-/

namespace EnumHeader

set_option autoImplicit false

namespace Assigned

def ofValues (values : List Int) : Assigned :=
  values.foldl push {}

theorem of_values_concat (values : List Int) (value : Int) :
    ofValues (values ++ [value]) = (ofValues values).push value := by
  simp [ofValues]

theorem previous_of_values (values : List Int) : (ofValues values).previous = values.getLast? := by
  induction values using List.reverseRecOn with
  | nil => rfl
  | append_singleton earlier last => simp [of_values_concat, push]

theorem or_lt_two_pow_iff (left right width : Nat) :
    left ||| right < 2 ^ width ↔ left < 2 ^ width ∧ right < 2 ^ width :=
  ⟨fun small => ⟨Nat.left_le_or.trans_lt small, Nat.right_le_or.trans_lt small⟩,
    fun ⟨leftSmall, rightSmall⟩ => Nat.or_lt_two_pow leftSmall rightSmall⟩

theorem used_bits_push_lt_iff (assigned : Assigned) (value : Int) (width : Nat) :
    (assigned.push value).usedBits < 2 ^ width ↔
      assigned.usedBits < 2 ^ width ∧ value < 2 ^ width := by
  have power : (0 : Int) < 2 ^ width := by positivity
  unfold push
  by_cases positive : 0 < value
  · have same : value.toNat < 2 ^ width ↔ value < 2 ^ width := by
      zify
      omega
    simp only [positive, if_true, or_lt_two_pow_iff, same]
  · have below : value < 2 ^ width := by omega
    simp only [positive, if_false, below, and_true]

theorem used_bits_lt_iff (values : List Int) (width : Nat) :
    (ofValues values).usedBits < 2 ^ width ↔ ∀ value ∈ values, value < 2 ^ width := by
  induction values using List.reverseRecOn with
  | nil => simp [ofValues]
  | append_singleton values value ih =>
      rw [of_values_concat, used_bits_push_lt_iff, ih, List.forall_mem_append,
        List.forall_mem_singleton]

theorem used_width_le_iff (values : List Int) (width : Nat) :
    Width.ofNat (ofValues values).usedBits ≤ width ↔ ∀ value ∈ values, value < 2 ^ width := by
  rw [Width.of_nat_le_iff, used_bits_lt_iff]

end Assigned

/-- In a value enum, counting goes on from the last value, or starts at zero. -/
def NextValue (earlier : List Int) (value : Int) : Prop :=
  match earlier.getLast? with
  | none => value = 0
  | some previous => value = previous + 1

/-- In a flags enum, the next flag is the lowest bit above all positive values, so it is apart from
every flag before it. -/
structure NextFlag (earlier : List Int) (flag : Int) : Prop where
  least : IsLeast {power : Int | (∃ bit : Nat, power = 2 ^ bit) ∧
    ∀ value ∈ earlier, 0 < value → value < power} flag
  first : (∀ value ∈ earlier, ¬ 0 < value) → flag = 1
  disjoint : ∀ value ∈ earlier, 0 ≤ value → value.toNat &&& flag.toNat = 0
  fresh : ∀ value ∈ earlier, 0 ≤ value → value ≠ flag

def Follows : Kind → List Int → Int → Prop
  | .value => NextValue
  | .flags => NextFlag

def Exhausted : Kind → List Int → Prop
  | .value, earlier => earlier.getLast? = some Integer.greatest
  | .flags, earlier => ∃ value ∈ earlier, 2 ^ 126 ≤ value

def exhaustion (kind : Kind) (enum : String) : Failure :=
  match kind with
  | .value => .misuse (.valuesExhausted enum Integer.greatest)
  | .flags => .misuse (.bitsExhausted enum)

theorem and_two_pow_eq_zero {n width : Nat} (small : n < 2 ^ width) : n &&& 2 ^ width = 0 := by
  rw [Nat.and_two_pow, Nat.testBit_lt_two_pow small]
  simp

theorem NextFlag.of_least_bit {values : List Int} {bit : Nat}
    (least : ∀ width, bit ≤ width ↔ ∀ value ∈ values, value < 2 ^ width) :
    NextFlag values (2 ^ bit) where
  least := by
    refine ⟨⟨⟨bit, rfl⟩, fun value member _ => (least bit).1 le_rfl value member⟩, ?_⟩
    rintro _ ⟨⟨width, rfl⟩, above⟩
    have power : (0 : Int) < 2 ^ width := by positivity
    have enough : bit ≤ width := (least width).2 fun value member =>
      (le_or_gt value 0).elim (fun small => small.trans_lt power) (above value member)
    exact pow_le_pow_right₀ (by decide) enough
  first := by
    intro none
    have enough : bit ≤ 0 := (least 0).2 fun value member => by
      have := none value member
      omega
    obtain rfl : bit = 0 := Nat.le_zero.1 enough
    rfl
  disjoint := by
    intro value member nonneg
    have below := (least bit).1 le_rfl value member
    have small : value.toNat < 2 ^ bit := by
      zify
      omega
    have flag : ((2 : Int) ^ bit).toNat = 2 ^ bit := by
      exact_mod_cast Int.toNat_natCast (2 ^ bit)
    rw [flag]
    exact and_two_pow_eq_zero small
  fresh := fun value member _ => ((least bit).1 le_rfl value member).ne

namespace Assigned

variable {values : List Int} (enum : String)

theorem next_value_of_values (fits : ∀ value ∈ values, Integer.Fits value)
    (left : ¬ Exhausted .value values) :
    ∃ value, (ofValues values).nextValue enum = .ok value ∧ NextValue values value ∧
      Integer.Fits value := by
  unfold nextValue NextValue
  rw [previous_of_values]
  cases last : values.getLast? with
  | none => exact ⟨0, rfl, rfl, by decide⟩
  | some previous =>
      have within := fits previous (List.mem_of_getLast? last)
      have notLast : previous ≠ Integer.greatest := by
        rintro rfl
        exact left last
      have smaller : previous < Integer.greatest := lt_of_le_of_ne within.2 notLast
      refine ⟨previous + 1, if_pos smaller, rfl, ?_⟩
      unfold Integer.Fits at within ⊢
      omega

theorem next_flag_of_values (left : ¬ Exhausted .flags values) :
    ∃ flag, (ofValues values).nextFlag enum = .ok flag ∧ NextFlag values flag ∧
      Integer.Fits flag := by
  have small : Width.ofNat (ofValues values).usedBits < 127 := by
    apply Nat.lt_succ_of_le
    rw [used_width_le_iff]
    intro value member
    by_contra large
    exact left ⟨value, member, not_lt.1 large⟩
  refine ⟨_, if_pos small, .of_least_bit (used_width_le_iff values), ?_⟩
  have below : (2 : Int) ^ Width.ofNat (ofValues values).usedBits ≤ 2 ^ 126 :=
    pow_le_pow_right₀ (by decide) (by omega)
  have power : (0 : Int) < 2 ^ Width.ofNat (ofValues values).usedBits := by positivity
  simp only [Integer.Fits, Integer.least, Integer.greatest, Integer.int_pow_eq]
  omega

theorem next_of_values (kind : Kind) (fits : ∀ value ∈ values, Integer.Fits value)
    (left : ¬ Exhausted kind values) :
    ∃ value, (ofValues values).next kind enum = .ok value ∧ Follows kind values value ∧
      Integer.Fits value := by
  cases kind with
  | value => exact next_value_of_values enum fits left
  | flags => exact next_flag_of_values enum left

theorem next_of_exhausted {kind : Kind} (exhausted : Exhausted kind values) :
    (ofValues values).next kind enum = .error (exhaustion kind enum) := by
  cases kind with
  | value =>
      have last : values.getLast? = some Integer.greatest := exhausted
      simp [next, nextValue, previous_of_values, last, exhaustion]
  | flags =>
      obtain ⟨value, member, large⟩ := exhausted
      have wide : ¬ Width.ofNat (ofValues values).usedBits < 127 := by
        intro small
        have below := (used_width_le_iff values 126).1 (Nat.le_of_lt_succ small) value member
        omega
      simp [next, nextFlag, wide, exhaustion]

end Assigned

end EnumHeader
