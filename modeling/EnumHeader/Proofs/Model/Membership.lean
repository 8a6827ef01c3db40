import EnumHeader.Proofs.Model.Validated
import EnumHeader.Proofs.ValueSet

/-!
# Membership and the validity check

The values that belong to an enum are those of its entries, or for flags those without a bit outside
the declared ones. The validity check of a model decides this for every value of the storage type,
whichever of its forms is chosen. Outside the storage range nothing is said about it.
-/

namespace EnumHeader

set_option autoImplicit false

/-- The value belongs to the enum: an entry of a value enum has it, and a flags enum declares each
of its bits. -/
def Definition.Admits (definition : Definition) (value : Int) : Prop :=
  match definition.kind with
  | .value => ∃ entry ∈ definition.entries, entry.value = value
  | .flags =>
      0 ≤ value ∧ ∀ position, (Integer.pattern value).testBit position = true →
        ∃ entry ∈ definition.entries, (Integer.pattern entry.value).testBit position = true

/-- An unsigned type ends at a power of two less one, also where entry values end before it. -/
theorem SizeType.highest_of_unsigned {sizeType : SizeType} (unsigned : sizeType.signed = false) :
    sizeType.highest = 2 ^ min sizeType.effectiveBits 127 - 1 := by
  simp only [highest, unsigned, Bool.false_eq_true, if_false, Integer.greatest, Integer.int_pow_eq]
  by_cases narrow : sizeType.effectiveBits ≤ 127
  · have power : (2 : Int) ^ sizeType.effectiveBits ≤ 2 ^ 127 :=
      pow_le_pow_right₀ (by omega) narrow
    rw [Nat.min_eq_left narrow]
    omega
  · have power : (2 : Int) ^ 127 ≤ 2 ^ sizeType.effectiveBits :=
      pow_le_pow_right₀ (by omega) (by omega)
    rw [Nat.min_eq_right (by omega)]
    omega

theorem SizeType.lowest_of_unsigned {sizeType : SizeType} (unsigned : sizeType.signed = false) :
    sizeType.lowest = 0 := by
  simp [lowest, unsigned]

namespace Validity

/-- Each form that is chosen for distinct values accepts, inside the storage range, exactly them. -/
theorem accepts_of_values {sizeType : SizeType} {values : List Int}
    (ascending : values.Pairwise (· < ·)) {value : Int} (inside : sizeType.Holds value) :
    (ofValues sizeType values).accepts value = true ↔ value ∈ values := by
  obtain ⟨above, below⟩ := inside
  cases head : values.head? with
  | none =>
      have empty : values = [] := List.head?_eq_none_iff.1 head
      have scanned : ofValues sizeType values = .scan values := by
        rw [empty]
        rfl
      rw [scanned]
      exact ValueSet.search_iff ascending value
  | some min =>
      obtain ⟨max, last⟩ : ∃ max, values.getLast? = some max := by
        cases last : values.getLast? with
        | none => simp [List.getLast?_eq_none_iff.1 last] at head
        | some max => exact ⟨max, rfl⟩
      simp only [ofValues, head, last]
      -- Without gaps the values are a run, and a bound that the storage range implies is left out.
      split_ifs with single gaps least greatest greatest
      · obtain ⟨only, rfl⟩ := List.length_eq_one_iff.1 single
        simp_all [accepts]
      · exact ValueSet.search_iff ascending value
      · rw [ValueSet.mem_run_iff ascending (by simpa using gaps) head last]
        simp only [accepts, true_iff]
        omega
      · rw [ValueSet.mem_run_iff ascending (by simpa using gaps) head last]
        simp only [accepts, decide_eq_true_eq]
        omega
      · rw [ValueSet.mem_run_iff ascending (by simpa using gaps) head last]
        simp only [accepts, decide_eq_true_eq]
        omega
      · rw [ValueSet.mem_run_iff ascending (by simpa using gaps) head last]
        simp [accepts]

theorem accepts_of_flags {sizeType : SizeType} (unsigned : sizeType.signed = false) (mask : Nat)
    {value : Int} (inside : sizeType.Holds value) :
    (ofFlags sizeType mask).accepts value = true ↔
      ∀ position, value.toNat.testBit position = true → mask.testBit position = true := by
  obtain ⟨above, below⟩ := inside
  rw [SizeType.lowest_of_unsigned unsigned] at above
  rw [SizeType.highest_of_unsigned unsigned] at below
  unfold ofFlags
  rw [SizeType.highest_of_unsigned unsigned]
  split_ifs with full low
  · -- The mask is compared as an integer, so it is first shown to be all the bits of the range.
    have power : 0 < 2 ^ min sizeType.effectiveBits 127 := Nat.two_pow_pos _
    have mask_eq : mask = 2 ^ min sizeType.effectiveBits 127 - 1 := by
      zify [power]
      exact full
    rw [mask_eq, ValueSet.low_bits_iff]
    simp only [accepts, true_iff]
    zify [power]
    omega
  · simp only [Bool.and_eq_true, beq_iff_eq] at low
    obtain ⟨height, rfl⟩ := ValueSet.low_block_eq low.1 low.2
    rw [ValueSet.low_bits_iff]
    simp [accepts, above]
  · rw [← ValueSet.or_eq_mask_iff]
    simp [accepts, above]

end Validity

namespace Model.Validated

variable {config : Config} {model : Model} (validated : model.Validated config)
include validated

theorem accepts_iff_admits {value : Int} (inside : model.sizeType.Holds value) :
    model.metadata.validity.accepts value = true ↔ model.definition.Admits value := by
  unfold Definition.Admits
  split
  next kind =>
    rw [validated.validity_of_value kind,
      Validity.accepts_of_values (ValueSet.ascending_of_list _) inside, ValueSet.mem_of_list_iff]
    simp [Definition.values]
  next kind =>
    have unsigned := validated.unsigned_of_flags kind
    have nonneg : 0 ≤ value := by
      have above := inside.1
      rwa [SizeType.lowest_of_unsigned unsigned] at above
    have bits : Integer.pattern value = value.toNat := by
      have exact := Integer.pattern_of_nonneg nonneg (model.sizeType.fits_of_holds inside)
      omega
    rw [validated.validity_of_flags kind, Validity.accepts_of_flags unsigned _ inside]
    simp only [ValueSet.test_bit_used_bits, ValueSet.mem_of_list_iff, Definition.values, List.mem_map,
      exists_exists_and_eq_and, bits, nonneg, true_and]

end Model.Validated

/-- Under an accepted configuration, the validity check of a validated definition decides for every
value of the storage type whether it belongs to the enum. -/
theorem validity_decides_membership (config : Config) (definitions : List Definition)
    (definition : Definition) (model : Model) (value : Int) (checked : config.check = .ok ())
    (passed : Validation.validate config definitions = .ok ()) (member : definition ∈ definitions)
    (built : Model.build config definition = .ok model) (inside : model.sizeType.Holds value) :
    model.metadata.validity.accepts value = true ↔ definition.Admits value := by
  obtain ⟨rfl, validated⟩ := Model.validated_of_build checked passed member built
  exact validated.accepts_iff_admits inside

def sparseFlags : Definition :=
  { name := "Access", kind := .flags, sizeIndex := 4, entries := [⟨"Read", 1, ""⟩, ⟨"Write", 4, ""⟩] }

theorem membership_of_sparse_flags :
    ({} : Config).check = .ok () ∧ Validation.validate {} [sparseFlags] = .ok () ∧
      ∃ model, Model.build {} sparseFlags = .ok model ∧ model.sizeType.Holds 5 ∧
        (model.metadata.validity.accepts 5 = true ↔ sparseFlags.Admits 5) := by
  refine ⟨rfl, rfl, _, rfl, by decide, ?_⟩
  exact validity_decides_membership {} [sparseFlags] sparseFlags _ 5 rfl rfl (by simp) rfl (by decide)

end EnumHeader
