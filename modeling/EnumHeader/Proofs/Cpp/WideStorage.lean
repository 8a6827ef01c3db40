import EnumHeader.Proofs.Cpp.Guard
import EnumHeader.Proofs.Model.Default

/-!
# Values past the largest that an entry can have

An unsigned storage type of 128 bits has values that no entry can have, because entry values end at
2^127 - 1. A validity check is chosen as if the type ended there as well. It tests for an upper bound
unless the values of the enum reach that end without a gap, or its flags use every bit below it:
then the check accepts every value of the upper half, although none of them belongs to the enum.
-/

namespace EnumHeader

set_option autoImplicit false

/-- The values of the enum reach the largest that an entry can have: more than one value without a
gap, or flags that use every bit. -/
def Definition.FillsTop (definition : Definition) : Prop :=
  match definition.kind with
  | .value =>
      ∃ min < Integer.greatest, ∀ value,
        value ∈ definition.values ↔ min ≤ value ∧ value ≤ Integer.greatest
  | .flags =>
      ∀ position < 127, ∃ entry ∈ definition.entries,
        (Integer.pattern entry.value).testBit position = true

namespace Validity

/-- Past all its values, a check accepts something only in the forms without an upper bound. -/
theorem accepts_past_values {sizeType : SizeType} {values : List Int}
    (ascending : values.Pairwise (· < ·)) {value : Int} (past : ∀ listed ∈ values, listed < value) :
    (ofValues sizeType values).accepts value = true ↔
      2 ≤ values.length ∧ ValueSet.isRun values = true ∧
        values.getLast? = some sizeType.highest := by
  match values with
  | [] => simp [ofValues, accepts, ValueSet.search]
  | [only] =>
      have below := past only List.mem_cons_self
      have differs : value ≠ only := by omega
      simp [ofValues, accepts, differs]
  | first :: second :: rest =>
      obtain ⟨max, last⟩ : ∃ max, (first :: second :: rest).getLast? = some max :=
        Option.ne_none_iff_exists'.1 (mt List.getLast?_eq_none_iff.1 (List.cons_ne_nil _ _))
      have above := past first List.mem_cons_self
      have below := past max (List.mem_of_getLast? last)
      have absent : value ∉ first :: second :: rest := fun listed => (past value listed).false
      have several : (first :: second :: rest).length ≠ 1 := by simp
      have enough : 2 ≤ (first :: second :: rest).length := by simp
      simp only [ofValues, List.head?_cons, last, several, if_false, enough, true_and,
        Option.some.injEq]
      split_ifs with gaps least greatest greatest
      · have broken : ValueSet.isRun (first :: second :: rest) = false := by simpa using gaps
        rw [broken]
        simpa [accepts, ValueSet.search_iff ascending] using absent
      · have run : ValueSet.isRun (first :: second :: rest) = true := by simpa using gaps
        simp [accepts, run, greatest]
      · simp [accepts, greatest, below]
      · have run : ValueSet.isRun (first :: second :: rest) = true := by simpa using gaps
        simp [accepts, run, greatest, above.le]
      · simp [accepts, greatest, below]

theorem accepts_past_mask {sizeType : SizeType} {mask : Nat} {value : Int}
    (past : (mask : Int) < value) :
    (ofFlags sizeType mask).accepts value = true ↔ (mask : Int) = sizeType.highest := by
  have larger : mask < value.toNat := by omega
  unfold ofFlags
  split_ifs with full low
  · simp [accepts, full]
  · simp [accepts, full, past]
  · have outside : value.toNat ||| mask ≠ mask := by
      intro same
      have covered : value.toNat ≤ value.toNat ||| mask := Nat.left_le_or
      omega
    simp [accepts, full, outside]

end Validity

namespace Model.Validated

variable {config : Config} {model : Model} (validated : model.Validated config)
include validated

theorem used_bits_below_sign (flags : model.definition.kind = .flags) :
    ValueSet.usedBits model.definition.values < 2 ^ 127 := by
  apply (validated.used_bits_lt flags).trans_le
  exact Nat.pow_le_pow_right (by omega) (Nat.min_le_right _ _)

theorem not_admits_past {value : Int} (past : 2 ^ 127 ≤ value) (inside : value < 2 ^ 128) :
    ¬model.definition.Admits value := by
  intro admits
  cases kind : model.definition.kind with
  | value =>
      unfold Definition.Admits at admits
      rw [kind] at admits
      obtain ⟨entry, declared, rfl⟩ := admits
      have below := (validated.fits entry declared).2
      simp only [Integer.greatest, Integer.int_pow_eq] at below
      omega
  | flags =>
      have covered := ((Definition.admits_flags_iff kind value).1 admits).2
      have small := validated.used_bits_below_sign kind
      have larger : Integer.pattern value ≤
          Integer.pattern value ||| ValueSet.usedBits model.definition.values := Nat.left_le_or
      have bits : Integer.pattern value = value.toNat := by
        simp only [Integer.pattern, Integer.int_pow_eq]
        omega
      omega

theorem accepts_past_iff_of_value (kind : model.definition.kind = .value)
    (highest : model.sizeType.highest = Integer.greatest) {value : Int}
    (past : Integer.greatest < value) :
    model.metadata.validity.accepts value = true ↔ model.definition.FillsTop := by
  have ascending := ValueSet.ascending_of_list model.definition.values
  have below : ∀ listed ∈ ValueSet.ofList model.definition.values, listed < value := by
    intro listed member
    obtain ⟨entry, declared, rfl⟩ := List.mem_map.1 (ValueSet.mem_of_list_iff.1 member)
    exact (validated.fits entry declared).2.trans_lt past
  rw [validated.validity_of_value kind, Validity.accepts_past_values ascending below, highest,
    ValueSet.run_up_to_iff ascending, Definition.FillsTop, kind]
  simp only [ValueSet.mem_of_list_iff]

theorem accepts_past_iff_of_flags (kind : model.definition.kind = .flags)
    (highest : model.sizeType.highest = Integer.greatest) {value : Int}
    (past : Integer.greatest < value) :
    model.metadata.validity.accepts value = true ↔ model.definition.FillsTop := by
  have small := validated.used_bits_below_sign kind
  have top : Integer.greatest = 2 ^ 127 - 1 := rfl
  have full : (ValueSet.usedBits model.definition.values : Int) = Integer.greatest ↔
      ValueSet.usedBits model.definition.values = 2 ^ 127 - 1 := by
    rw [top]
    omega
  rw [validated.validity_of_flags kind, ValueSet.used_bits_of_list,
    Validity.accepts_past_mask (by omega), highest, full, ValueSet.full_mask_iff small,
    Definition.FillsTop, kind]
  simp only [ValueSet.test_bit_used_bits, Definition.values, List.mem_map,
    exists_exists_and_eq_and]

theorem accepts_past_iff (highest : model.sizeType.highest = Integer.greatest) {value : Int}
    (past : Integer.greatest < value) :
    model.metadata.validity.accepts value = true ↔ model.definition.FillsTop := by
  cases kind : model.definition.kind with
  | value => exact validated.accepts_past_iff_of_value kind highest past
  | flags => exact validated.accepts_past_iff_of_flags kind highest past

end Model.Validated

namespace Cpp

open Reading.Printed (ofModel)

/-- In an unsigned storage type of 128 bits, no value of the upper half belongs to a validated
definition. Its validity check, and the generated function, accept such a value exactly when the
values of the definition reach the largest that an entry can have. -/
theorem upper_half_accepted_iff (config : Config) (definitions : List Definition)
    (definition : Definition) (model : Model) (depth : Nat) (value : Int)
    (checked : config.check = .ok ()) (passed : Validation.validate config definitions = .ok ())
    (member : definition ∈ definitions) (built : Model.build config definition = .ok model)
    (unsigned : model.sizeType.signed = false) (wide : model.sizeType.bits = 128)
    (past : 2 ^ 127 ≤ value) (inside : value < 2 ^ 128) :
    ¬definition.Admits value ∧
      (model.metadata.validity.accepts value = true ↔ definition.FillsTop) ∧
      ∃ printed : Reading.Printed, printed.Shows config model depth ∧
        printed.GivesValues definition ∧
        printed.Answers definition value (model.metadata.validity.accepts value) := by
  obtain ⟨rfl, validated⟩ := Model.validated_of_build checked passed member built
  have highest : model.sizeType.highest = Integer.greatest := by
    rw [SizeType.highest_of_unsigned unsigned, validated.width, wide]
    rfl
  have beyond : Integer.greatest < value := by
    simp only [Integer.greatest, Integer.int_pow_eq]
    omega
  have represents : model.sizeType.Represents value := by
    simp only [SizeType.Represents, unsigned, wide, Bool.false_eq_true, if_false]
    omega
  have names := Config.given_names_of_check checked
  have shows := Reading.Printed.shows_of_given_names names model depth
  exact ⟨validated.not_admits_past past inside, validated.accepts_past_iff highest beyond,
    ofModel config model, shows, Reading.Printed.gives_values validated,
    answers_of_represented validated represents⟩

def wideStorage : Config :=
  { valueSizeType := "uint128", flagsSizeType := "uint128",
    sizeTypes := [⟨"uint128", 128, false, "unsigned __int128"⟩] }

def highFlags : Definition :=
  { name := "Access", kind := .flags, sizeIndex := 0,
    entries := [⟨"Read", 1, ""⟩, ⟨"Lock", 2 ^ 126, ""⟩] }

theorem upper_half_of_high_flags :
    wideStorage.check = .ok () ∧ Validation.validate wideStorage [highFlags] = .ok () ∧
      ∃ model, Model.build wideStorage highFlags = .ok model ∧
        model.sizeType.signed = false ∧ model.sizeType.bits = 128 ∧
        (2 : Int) ^ 127 ≤ 2 ^ 127 + 1 ∧ (2 : Int) ^ 127 + 1 < 2 ^ 128 ∧
        ∃ printed : Reading.Printed, printed.Shows wideStorage model 0 ∧
          printed.call "is_valid" "underlying_type" .nothing (.integer (2 ^ 127 + 1)) =
            some (.boolean false) := by
  refine ⟨rfl, rfl, _, rfl, rfl, rfl, by decide, by decide, ?_⟩
  obtain ⟨-, accepted, printed, shows, values, answers⟩ :=
    upper_half_accepted_iff wideStorage [highFlags] highFlags _ 0 (2 ^ 127 + 1) rfl rfl (by simp)
      rfl rfl rfl (by decide) (by decide)
  have gap : ¬highFlags.FillsTop := by
    intro filled
    obtain ⟨entry, declared, set⟩ := filled 1 (by decide)
    simp only [highFlags, List.mem_cons, List.not_mem_nil, or_false] at declared
    rcases declared with rfl | rfl
    · exact absurd set (by decide)
    · exact absurd set (by decide)
  refine ⟨printed, shows, ?_⟩
  rw [answers.call values (by decide), Bool.eq_false_iff.2 (mt accepted.1 gap)]

def lastValues : Definition :=
  { name := "Top", kind := .value, sizeIndex := 0,
    entries := [⟨"Low", 2 ^ 127 - 2, ""⟩, ⟨"High", 2 ^ 127 - 1, ""⟩] }

/-- A definition can pass validation and have a check that accepts what does not belong to it. -/
theorem value_past_last_accepted :
    wideStorage.check = .ok () ∧ Validation.validate wideStorage [lastValues] = .ok () ∧
      ∃ model, Model.build wideStorage lastValues = .ok model ∧
        model.sizeType.signed = false ∧ model.sizeType.bits = 128 ∧
        ¬lastValues.Admits (2 ^ 127) ∧ model.metadata.validity.accepts (2 ^ 127) = true := by
  refine ⟨rfl, rfl, _, rfl, rfl, rfl, ?_, rfl⟩
  simp [Definition.Admits, lastValues]

end Cpp

end EnumHeader
