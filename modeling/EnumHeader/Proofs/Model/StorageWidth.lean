import EnumHeader.Proofs.Model.Default
import EnumHeader.Proofs.Width
import Mathlib.Order.Bounds.Defs

/-!
# The storage width of a model

The storage width is computed from the extreme values alone. It is the least width of a field that
holds every value the validity check accepts; for flags these are also the combinations, none of
which is wider than the largest flag. The width never exceeds that of the storage type.
-/

namespace EnumHeader

set_option autoImplicit false

open Width (FieldHolds)

/-- The widths of those fields that hold every value of the storage range that the validity check
accepts. -/
def Model.FieldWidths (model : Model) : Set Nat :=
  {bits | ∀ value, model.sizeType.Holds value → model.metadata.validity.accepts value = true →
    FieldHolds model.sizeType.signed bits value}

theorem Model.mem_field_widths (model : Model) (bits : Nat) :
    bits ∈ model.FieldWidths ↔
      ∀ value, model.sizeType.Holds value → model.metadata.validity.accepts value = true →
        FieldHolds model.sizeType.signed bits value :=
  Iff.rfl

namespace Model.Validated

variable {config : Config} {model : Model} (validated : model.Validated config)
include validated

theorem extremes : ∃ min max, model.definition.values.min? = some min ∧
    model.definition.values.max? = some max ∧ min ∈ model.definition.values ∧
    max ∈ model.definition.values ∧
    ∀ value ∈ model.definition.values, min ≤ value ∧ value ≤ max := by
  obtain ⟨min, max, least, greatest, ⟨minMember, below⟩, maxMember, above⟩ :=
    ValueSet.exists_extremes (Definition.values_nonempty validated.valid)
  exact ⟨min, max, least, greatest, minMember, maxMember,
    fun value member => ⟨below member, above member⟩⟩

theorem accepted_iff (value : Int) :
    (model.sizeType.Holds value ∧ model.metadata.validity.accepts value = true) ↔
      Integer.Fits value ∧ model.definition.Admits value := by
  constructor
  · rintro ⟨inside, accepted⟩
    exact ⟨model.sizeType.fits_of_holds inside, (validated.accepts_iff_admits inside).1 accepted⟩
  · rintro ⟨fits, admits⟩
    have inside := validated.holds_of_admits fits admits
    exact ⟨inside, (validated.accepts_iff_admits inside).2 admits⟩

theorem admits_of_mem {value : Int} (member : value ∈ model.definition.values) :
    Integer.Fits value ∧ model.definition.Admits value := by
  obtain ⟨entry, declared, rfl⟩ := List.mem_map.1 member
  exact validated.admits_of_origin (.entry declared)

theorem storage_bits_of_value (kind : model.definition.kind = .value) (bits : Nat) :
    model.metadata.storageBits ≤ bits ↔
      ∀ value ∈ model.definition.values, FieldHolds model.sizeType.signed bits value := by
  obtain ⟨min, max, least, greatest, minMember, maxMember, within⟩ := validated.extremes
  obtain ⟨default, derived⟩ := validated.derived
  have width : model.metadata.storageBits = Width.storage model.sizeType.signed min max := by
    rw [derived, kind]
    simp only [Metadata.ofValues, least, greatest, Option.getD_some]
  have nonneg : model.sizeType.signed = false → 0 ≤ min := by
    intro unsigned
    obtain ⟨entry, declared, rfl⟩ := List.mem_map.1 minMember
    have above := (validated.holds declared).1
    rwa [SizeType.lowest_of_unsigned unsigned] at above
  rw [width, Width.storage_le_iff _ (within max maxMember).1 nonneg]
  constructor
  · rintro ⟨holdsLeast, holdsGreatest⟩ value member
    exact holdsLeast.between holdsGreatest (within value member).1 (within value member).2
  · intro holds
    exact ⟨holds min minMember, holds max maxMember⟩

theorem storage_bits_of_flags (kind : model.definition.kind = .flags) (bits : Nat) :
    model.metadata.storageBits ≤ bits ↔
      ∀ value ∈ model.definition.values, FieldHolds false bits value := by
  obtain ⟨min, max, least, greatest, minMember, maxMember, within⟩ := validated.extremes
  obtain ⟨default, derived⟩ := validated.derived
  have width : model.metadata.storageBits = Width.unsigned max := by
    rw [derived, kind]
    simp only [Metadata.ofValues, greatest, Option.getD_some]
  have nonneg : ∀ value ∈ model.definition.values, 0 ≤ value := by
    intro value member
    obtain ⟨entry, declared, rfl⟩ := List.mem_map.1 member
    exact validated.nonneg_of_flags kind entry declared
  rw [width, Width.unsigned_le_iff (nonneg max maxMember)]
  constructor
  · intro holdsGreatest value member
    have above := nonneg value member
    have below := (within value member).2
    simp only [FieldHolds, Bool.false_eq_true, if_false] at holdsGreatest ⊢
    omega
  · intro holds
    exact holds max maxMember

/-- A field that holds each flag holds every combination of them. -/
theorem field_holds_combination (kind : model.definition.kind = .flags) {bits : Nat}
    (holds : ∀ value ∈ model.definition.values, FieldHolds false bits value) {value : Int}
    (fits : Integer.Fits value) (admits : model.definition.Admits value) :
    FieldHolds false bits value := by
  obtain ⟨nonneg, inside⟩ := (Definition.admits_flags_iff kind value).1 admits
  have small : ValueSet.usedBits model.definition.values < 2 ^ bits := by
    apply ValueSet.used_bits_lt
    intro flag member
    have held := holds flag member
    simp only [FieldHolds, Bool.false_eq_true, if_false] at held
    have pattern := Integer.pattern_of_nonneg held.1 (validated.admits_of_mem member).1
    zify
    omega
  have covered : Integer.pattern value ≤ ValueSet.usedBits model.definition.values :=
    inside ▸ Nat.left_le_or
  have pattern := Integer.pattern_of_nonneg nonneg fits
  have below := covered.trans_lt small
  simp only [FieldHolds, Bool.false_eq_true, if_false]
  zify at below
  omega

/-- Both readings of the storage width: it suffices for every accepted value, and no smaller width
does. -/
theorem storage_bits_le_iff (bits : Nat) :
    model.metadata.storageBits ≤ bits ↔ bits ∈ model.FieldWidths := by
  have accepted := validated.accepted_iff
  rw [Model.mem_field_widths]
  cases kind : model.definition.kind with
  | value =>
      rw [validated.storage_bits_of_value kind]
      constructor
      · intro holds value inside accepts
        obtain ⟨-, admits⟩ := (accepted value).1 ⟨inside, accepts⟩
        unfold Definition.Admits at admits
        rw [kind] at admits
        obtain ⟨entry, declared, rfl⟩ := admits
        exact holds entry.value (List.mem_map_of_mem declared)
      · intro holds value member
        obtain ⟨inside, accepts⟩ := (accepted value).2 (validated.admits_of_mem member)
        exact holds value inside accepts
  | flags =>
      rw [validated.storage_bits_of_flags kind, validated.unsigned_of_flags kind]
      constructor
      · intro holds value inside accepts
        obtain ⟨fits, admits⟩ := (accepted value).1 ⟨inside, accepts⟩
        exact validated.field_holds_combination kind holds fits admits
      · intro holds value member
        obtain ⟨inside, accepts⟩ := (accepted value).2 (validated.admits_of_mem member)
        exact holds value inside accepts

theorem field_holds_of_storage {value : Int} (inside : model.sizeType.Holds value) :
    FieldHolds model.sizeType.signed model.sizeType.bits value := by
  have represents := (SizeType.holds_iff_represents validated.width
    (model.sizeType.fits_of_holds inside)).1 inside
  have positive := validated.width_bounds.1
  unfold SizeType.Represents at represents
  unfold FieldHolds
  split at represents
  next signed =>
    rw [if_pos signed]
    exact Or.inr ⟨positive, represents⟩
  next unsigned =>
    rw [if_neg unsigned]
    exact represents

theorem storage_bits_le_bits : model.metadata.storageBits ≤ model.sizeType.bits :=
  (validated.storage_bits_le_iff model.sizeType.bits).2 fun _ inside _ =>
    validated.field_holds_of_storage inside

theorem storage_bits_least : IsLeast model.FieldWidths model.metadata.storageBits :=
  ⟨(validated.storage_bits_le_iff _).1 le_rfl, fun bits holds =>
    (validated.storage_bits_le_iff bits).2 holds⟩

end Model.Validated

end EnumHeader
