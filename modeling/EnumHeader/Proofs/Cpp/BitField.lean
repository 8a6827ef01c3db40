import EnumHeader.Proofs.Cpp.Reading.Info
import EnumHeader.Proofs.Model.StorageWidth

/-!
# Bit-fields of generated types

The width that is printed for bit-fields is the storage width, but at least one bit. A bit-field of
that width fits into the storage type and holds every valid value and the default.
-/

namespace EnumHeader.Cpp

set_option autoImplicit false

open Reading (declaredNumber)
open Width (FieldHolds)

theorem packed_bits_of_validated {config : Config} {model : Model}
    (validated : model.Validated config) :
    packedBits model ≤ model.sizeType.bits ∧ packedBits model ∈ model.FieldWidths := by
  have stored := validated.storage_bits_le_bits
  have positive := validated.width_bounds.1
  refine ⟨max_le stored positive, ?_⟩
  exact (validated.storage_bits_le_iff _).1 (le_max_left _ _)

/-- Under an accepted configuration, the storage width of a validated definition is the least that
holds every accepted value, and the width that is printed for bit-fields holds these and the
default. -/
theorem bit_fields_hold_valid_values (config : Config) (definitions : List Definition)
    (definition : Definition) (model : Model) (checked : config.check = .ok ())
    (passed : Validation.validate config definitions = .ok ()) (member : definition ∈ definitions)
    (built : Model.build config definition = .ok model) :
    IsLeast model.FieldWidths model.metadata.storageBits ∧
      model.metadata.storageBits ≤ model.sizeType.bits ∧
      ∃ packed, declaredNumber "packed_bits" (enumInfo config model) = some packed ∧
        packed = max model.metadata.storageBits 1 ∧ packed ≤ model.sizeType.bits ∧
        packed ∈ model.FieldWidths ∧
        FieldHolds model.sizeType.signed packed model.defaultValue := by
  obtain ⟨-, validated⟩ := Model.validated_of_build checked passed member built
  obtain ⟨narrow, holds⟩ := packed_bits_of_validated validated
  obtain ⟨fits, admits⟩ := validated.admits_of_origin (validated.origin_of_build built)
  obtain ⟨inside, accepted⟩ := (validated.accepted_iff _).2 ⟨fits, admits⟩
  exact ⟨validated.storage_bits_least, validated.storage_bits_le_bits, packedBits model,
    Reading.declared_packed_bits config model, rfl, narrow, holds,
    holds model.defaultValue inside accepted⟩

/-- Flags whose default, all of them together, is no entry. -/
def combinedFlags : Definition :=
  { name := "Access", kind := .flags, sizeIndex := 4, defaultStyle := some .usedBitsSet,
    entries := [⟨"Write", 4, ""⟩, ⟨"Read", 1, ""⟩] }

theorem bit_field_of_combined_flags :
    ({} : Config).check = .ok () ∧ Validation.validate {} [combinedFlags] = .ok () ∧
      ∃ model, Model.build {} combinedFlags = .ok model ∧ model.defaultValue = 5 ∧
        IsLeast model.FieldWidths 3 ∧
        declaredNumber "packed_bits" (enumInfo {} model) = some 3 ∧ FieldHolds false 3 5 := by
  refine ⟨rfl, rfl, _, rfl, rfl, ?_⟩
  obtain ⟨least, -, _, declared, rfl, -, -, holds⟩ :=
    bit_fields_hold_valid_values {} [combinedFlags] combinedFlags _ rfl rfl (by simp) rfl
  exact ⟨least, declared, holds⟩

end EnumHeader.Cpp
