import EnumHeader.Proofs.Machine.ValueSet
import Mathlib.Data.Int.Interval

/-!
# Runs of values

Whether distinct values are a run is decided by comparing each with its neighbour. The answer is the
one for the whole interval: nothing between the smallest and the largest value is missing, or, what
is the same, there are as many values as the interval has integers.
-/

namespace EnumHeader.ValueSet

set_option autoImplicit false

variable {values : List Int} {min max : Int}

theorem ends_of_list (nonempty : values ≠ []) :
    ∃ min max, (ofList values).head? = some min ∧ (ofList values).getLast? = some max ∧
      IsLeast {value | value ∈ values} min ∧ IsGreatest {value | value ∈ values} max := by
  have ascending := ascending_of_list values
  obtain ⟨value, member⟩ := List.exists_mem_of_ne_nil values nonempty
  obtain ⟨min, max, head, last⟩ := exists_ends (List.ne_nil_of_mem (mem_of_list_iff.2 member))
  refine ⟨min, max, head, last, ⟨?_, ?_⟩, ⟨?_, ?_⟩⟩
  · exact mem_of_list_iff.1 (List.mem_of_head? head)
  · intro other inside
    exact head_le ascending head other (mem_of_list_iff.2 inside)
  · exact mem_of_list_iff.1 (List.mem_of_getLast? last)
  · intro other inside
    exact le_last ascending last other (mem_of_list_iff.2 inside)

theorem is_run_iff_filled (ascending : values.Pairwise (· < ·)) (head : values.head? = some min)
    (last : values.getLast? = some max) :
    isRun values = true ↔ ∀ value, min ≤ value → value ≤ max → value ∈ values := by
  constructor
  · intro run value above below
    exact mem_of_is_run run head last above below
  · exact is_run_of_mem ascending head last

theorem filled_iff_card (least : IsLeast {value | value ∈ values} min)
    (greatest : IsGreatest {value | value ∈ values} max) :
    (∀ value, min ≤ value → value ≤ max → value ∈ values) ↔
      max - min + 1 = values.toFinset.card := by
  have inside : values.toFinset ⊆ Finset.Icc min max := by
    intro value member
    have listed := List.mem_toFinset.1 member
    exact Finset.mem_Icc.2 ⟨least.2 listed, greatest.2 listed⟩
  have ordered : min ≤ max := least.2 greatest.1
  have places : ((Finset.Icc min max).card : Int) = max - min + 1 := by
    rw [Int.card_Icc]
    omega
  constructor
  · intro filled
    have all : Finset.Icc min max ⊆ values.toFinset := by
      intro value member
      obtain ⟨above, below⟩ := Finset.mem_Icc.1 member
      exact List.mem_toFinset.2 (filled value above below)
    rw [inside.antisymm all, places]
  · intro enough value above below
    have same := Finset.eq_of_subset_of_card_le inside (by omega)
    exact List.mem_toFinset.1 (same ▸ Finset.mem_Icc.2 ⟨above, below⟩)

/-- Values are a run exactly when they leave out nothing between their extremes, which is when there
are as many of them as there are integers from one extreme to the other. Comparing neighbours in 128
bits gives the same answer, also where their difference has no value of 128 bits. -/
theorem run_iff_no_gap (nonempty : values ≠ []) :
    ∃ min max, IsLeast {value | value ∈ values} min ∧ IsGreatest {value | value ∈ values} max ∧
      Machine.isRun (ofList values) = isRun (ofList values) ∧
      (isRun (ofList values) = true ↔ ∀ value, min ≤ value → value ≤ max → value ∈ values) ∧
      (isRun (ofList values) = true ↔ max - min + 1 = values.toFinset.card) := by
  obtain ⟨min, max, head, last, least, greatest⟩ := ends_of_list nonempty
  have filled : isRun (ofList values) = true ↔
      ∀ value, min ≤ value → value ≤ max → value ∈ values := by
    simp only [is_run_iff_filled (ascending_of_list values) head last, mem_of_list_iff]
  exact ⟨min, max, least, greatest, Machine.is_run_eq _, filled,
    filled.trans (filled_iff_card least greatest)⟩

def farValues : List Int :=
  [Integer.greatest, 0, Integer.least, 0]

theorem gaps_of_far_values :
    farValues ≠ [] ∧ Machine.isRun (ofList farValues) = false ∧
      ∃ min max, IsLeast {value | value ∈ farValues} min ∧
        IsGreatest {value | value ∈ farValues} max ∧
        Machine.isRun (ofList farValues) = isRun (ofList farValues) ∧
        (isRun (ofList farValues) = true ↔
          ∀ value, min ≤ value → value ≤ max → value ∈ farValues) ∧
        (isRun (ofList farValues) = true ↔ max - min + 1 = farValues.toFinset.card) :=
  ⟨List.cons_ne_nil _ _, by decide +kernel, run_iff_no_gap (List.cons_ne_nil _ _)⟩

/-- Neighbours as far apart as they can be, and four values in a row, listed out of order. -/
example : Machine.isRun (ofList [Integer.greatest, Integer.least]) = false ∧
    Machine.isRun (ofList [1, -2, 0, -1, 0]) = true := by
  decide +kernel

end EnumHeader.ValueSet
