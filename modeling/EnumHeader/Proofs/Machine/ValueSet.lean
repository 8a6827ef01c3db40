import EnumHeader.Proofs.Machine.Word
import EnumHeader.Proofs.ValueSet

/-!
# Sets of values in machine arithmetic

The run and the block of bits, decided on words. A difference of two values that has no value of its
own is no step of a run, the zeros at the low end of a mask are shifted out, and the successor of a
mask wraps. The answers are those for integers without a bound.
-/

namespace EnumHeader.Machine

set_option autoImplicit false

section Definitions

def checkedDifference (value other : Int) : Option Int :=
  if Integer.Fits (value - other) then some (value - other) else none

def isRun (values : List Int) : Bool :=
  (values.zip values.tail).all fun pair => checkedDifference pair.2 pair.1 == some 1

def usedBits (values : List Int) : Word :=
  values.foldl (fun mask value => mask ||| toWord value) 0

/-- A mask without any bit has no gap, and no lowest bit to be moved to the end. -/
def isBlock (mask : Word) : Checked Bool :=
  if mask = 0 then return true
  else do
    let shifted ← shiftRight mask mask.ctz.toNat
    return shifted &&& (shifted + 1) == 0

end Definitions

theorem checked_difference_eq_one_iff (value other : Int) :
    checkedDifference value other = some 1 ↔ value - other = 1 := by
  unfold checkedDifference
  split_ifs with fits
  · exact Option.some_inj
  · constructor
    · intro none
      cases none
    · intro one
      rw [one] at fits
      exact absurd (by decide) fits

theorem is_run_eq (values : List Int) : isRun values = ValueSet.isRun values := by
  induction values with
  | nil => rfl
  | cons first rest ih =>
      cases rest with
      | nil => rfl
      | cons second rest =>
          have step : (checkedDifference second first == some 1) = (second - first == 1) := by
            rw [Bool.eq_iff_iff, beq_iff_eq, beq_iff_eq, checked_difference_eq_one_iff]
          have later : ((second :: rest).zip rest).all
              (fun pair => checkedDifference pair.2 pair.1 == some 1) =
                ValueSet.isRun (second :: rest) := ih
          rw [isRun, List.tail_cons, List.zip_cons_cons, List.all_cons, step, later, ValueSet.isRun]

theorem to_nat_fold (values : List Int) (mask : Word) :
    (values.foldl (fun mask value => mask ||| toWord value) mask).toNat =
      values.foldl (fun mask value => mask ||| Integer.pattern value) mask.toNat := by
  induction values generalizing mask with
  | nil => rfl
  | cons value rest ih => rw [List.foldl_cons, List.foldl_cons, ih, BitVec.toNat_or, to_nat_to_word]

theorem to_nat_used_bits (values : List Int) : (usedBits values).toNat = ValueSet.usedBits values :=
  to_nat_fold values 0

theorem shift_trailing_zeros {mask : Word} (nonzero : mask ≠ 0) :
    (mask >>> mask.ctz.toNat).toNat = ValueSet.oddPart mask.toNat := by
  rw [BitVec.toNat_ushiftRight]
  symm
  apply ValueSet.odd_part_eq_shift
  · exact BitVec.getLsbD_true_ctz_of_ne_zero nonzero
  · intro position below
    exact BitVec.getLsbD_false_of_lt_ctz below

/-- The bit that is lost when the successor of a full word wraps is none of the word. -/
theorem to_nat_and_successor (word : Word) :
    (word &&& (word + 1)).toNat = word.toNat &&& (word.toNat + 1) := by
  have inside : word.toNat < 2 ^ 128 := word.isLt
  have below : word.toNat &&& (word.toNat + 1) < 2 ^ 128 := Nat.and_le_left.trans_lt inside
  rw [BitVec.toNat_and, BitVec.toNat_add, to_nat_one, ← Nat.mod_eq_of_lt below, Nat.and_mod_two_pow,
    Nat.mod_eq_of_lt inside]

theorem is_block_eq (mask : Word) : isBlock mask = .ok (ValueSet.isBlock mask.toNat) := by
  unfold isBlock
  split_ifs with zero
  · have block : ValueSet.isBlock (0 : Word).toNat = true := by
      simp [ValueSet.isBlock, ValueSet.oddPart]
    rw [zero, block]
    rfl
  · have fewer : mask.ctz.toNat < 128 := BitVec.lt_def.1 (BitVec.ctz_lt_iff_ne_zero.2 zero)
    have answer : (mask >>> mask.ctz.toNat &&& (mask >>> mask.ctz.toNat + 1) == 0) =
        ValueSet.isBlock mask.toNat := by
      have none : (0 : Word).toNat = 0 := rfl
      rw [ValueSet.isBlock, ← shift_trailing_zeros zero, ← to_nat_and_successor, Bool.eq_iff_iff,
        beq_iff_eq, beq_iff_eq, ← BitVec.toNat_inj, none]
    rw [Outcome.bind_of_ok (shift_right_of_lt fewer mask), answer]
    rfl

end EnumHeader.Machine
