import EnumHeader.Proofs.Model.Membership

/-!
# Where defaults come from

The default of a valid definition can be resolved unless a value enum falls back to a style that
only flags have. A resolved default is the value of an entry, or for flags also the empty
combination or the union of all flags; in each case it belongs to the enum and lies in the storage
range. Which of these a style picks is not said here.
-/

namespace EnumHeader

set_option autoImplicit false

open Validation (Valid)

theorem idx_of_extreme_lt {values : List Int} {extreme : Option Int} (found : extreme ≠ none)
    (member : ∀ value, extreme = some value → value ∈ values) :
    values.idxOf (extreme.getD 0) < values.length := by
  cases extreme with
  | none => exact absurd rfl found
  | some value => exact List.idxOf_lt_length_iff.2 (member value rfl)

theorem value_default_of_applies {style : DefaultStyle} {values : List Int} (nonempty : values ≠ [])
    (applies : style.AppliesTo .value) :
    ∃ index < values.length, valueDefault style values = .ok index := by
  have isNonempty : values.isEmpty = false := by simpa using nonempty
  have positive : 0 < values.length := List.length_pos_iff.2 nonempty
  simp only [valueDefault, isNonempty, Bool.false_eq_true, if_false]
  cases style with
  | min => exact ⟨_, idx_of_extreme_lt (by simpa using nonempty) fun _ => List.min?_mem, rfl⟩
  | max => exact ⟨_, idx_of_extreme_lt (by simpa using nonempty) fun _ => List.max?_mem, rfl⟩
  | first => exact ⟨0, positive, rfl⟩
  | last => exact ⟨_, Nat.sub_lt positive Nat.one_pos, rfl⟩
  | zero => exact absurd rfl applies.1
  | usedBitsSet => exact absurd rfl applies.2

theorem value_default_of_not_applies {style : DefaultStyle} {values : List Int}
    (nonempty : values ≠ []) (misplaced : ¬style.AppliesTo .value) :
    valueDefault style values = .error (.misuse (.styleNeedsFlags style)) := by
  have isNonempty : values.isEmpty = false := by simpa using nonempty
  simp only [valueDefault, isNonempty, Bool.false_eq_true, if_false]
  cases style with
  | min | max | first | last => exact absurd (by decide) misplaced
  | zero | usedBitsSet => rfl

theorem mem_of_extreme {values : List Int} {extreme : Option Int} (found : extreme ≠ none)
    (member : ∀ value, extreme = some value → value ∈ values) : extreme.getD 0 ∈ values := by
  cases extreme with
  | none => exact absurd rfl found
  | some value => exact member value rfl

theorem flags_default_eq_ok (style : DefaultStyle) {values : List Int} (nonempty : values ≠ []) :
    ∃ value, flagsDefault style values = .ok value ∧
      (value ∈ values ∨ value = 0 ∨ value = Integer.ofPattern (ValueSet.usedBits values)) := by
  have isNonempty : values.isEmpty = false := by simpa using nonempty
  simp only [flagsDefault, isNonempty, Bool.false_eq_true, if_false]
  cases style with
  | zero => exact ⟨0, rfl, Or.inr (Or.inl rfl)⟩
  | usedBitsSet => exact ⟨_, rfl, Or.inr (Or.inr rfl)⟩
  | min =>
      exact ⟨_, rfl, Or.inl (mem_of_extreme (by simpa using nonempty) fun _ => List.min?_mem)⟩
  | max =>
      exact ⟨_, rfl, Or.inl (mem_of_extreme (by simpa using nonempty) fun _ => List.max?_mem)⟩
  | first =>
      exact ⟨_, rfl, Or.inl (mem_of_extreme (by simpa using nonempty) fun _ => List.mem_of_head?)⟩
  | last =>
      exact ⟨_, rfl,
        Or.inl (mem_of_extreme (by simpa using nonempty) fun _ => List.mem_of_getLast?)⟩

namespace Definition

variable {config : Config} {definition : Definition}

inductive DefaultOrigin (definition : Definition) : Int → Prop where
  | entry {entry : Entry} (member : entry ∈ definition.entries) :
      DefaultOrigin definition entry.value
  | noFlag (flags : definition.kind = .flags) : DefaultOrigin definition 0
  | allFlags (flags : definition.kind = .flags) :
      DefaultOrigin definition (Integer.ofPattern (ValueSet.usedBits definition.values))

theorem origin_of_index {index : Nat} (inside : index < definition.entries.length) :
    definition.DefaultOrigin ((DefaultValue.entry index).value definition.entries) := by
  have found : definition.entries[index]? = some definition.entries[index] :=
    List.getElem?_eq_getElem inside
  rw [DefaultValue.value, found, Option.getD_some]
  exact .entry (List.getElem_mem inside)

/-- The definition falls back to a style that its kind does not have. -/
def MisplacesStyle (definition : Definition) (config : Config) (style : DefaultStyle) : Prop :=
  definition.defaultName = none ∧ definition.effectiveStyle config = style ∧
    ¬style.AppliesTo definition.kind

theorem values_nonempty (valid : Valid config definition) : definition.values ≠ [] := by
  have nonempty : definition.entries ≠ [] := valid .someEntry
  simpa [values] using nonempty

theorem resolve_default_of_name {name : String} (named : definition.defaultName = some name)
    (declared : name ∈ definition.entryNames) :
    ∃ default, definition.resolveDefault config = .ok default ∧
      definition.DefaultOrigin (default.value definition.entries) := by
  obtain ⟨entry, member, same⟩ := List.mem_map.1 declared
  cases found : definition.indexOf? name with
  | none => simpa [same] using List.findIdx?_eq_none_iff.1 found entry member
  | some index =>
      obtain ⟨inside, -⟩ := List.findIdx?_eq_some_iff_getElem.1 found
      refine ⟨.entry index, ?_, origin_of_index inside⟩
      simp only [resolveDefault, named, found]

theorem resolve_default_of_flags (unnamed : definition.defaultName = none)
    (flags : definition.kind = .flags) (nonempty : definition.values ≠ []) :
    ∃ default, definition.resolveDefault config = .ok default ∧
      definition.DefaultOrigin (default.value definition.entries) := by
  obtain ⟨value, picked, origin⟩ :=
    flags_default_eq_ok (definition.effectiveStyle config) nonempty
  cases found : definition.values.findIdx? (· = value) with
  | some index =>
      obtain ⟨inside, -⟩ := List.findIdx?_eq_some_iff_getElem.1 found
      refine ⟨.entry index, ?_, origin_of_index (by simpa [values] using inside)⟩
      simp only [resolveDefault, unnamed, flags, picked, bind, Except.bind, found]
      rfl
  | none =>
      refine ⟨.raw value, ?_, ?_⟩
      · simp only [resolveDefault, unnamed, flags, picked, bind, Except.bind, found]
        rfl
      · rw [DefaultValue.value]
        rcases origin with member | rfl | rfl
        · obtain ⟨entry, declared, rfl⟩ := List.mem_map.1 member
          exact .entry declared
        · exact .noFlag flags
        · exact .allFlags flags

theorem resolve_default_of_value (unnamed : definition.defaultName = none)
    (value : definition.kind = .value) (nonempty : definition.values ≠ []) {style : DefaultStyle}
    (effective : definition.effectiveStyle config = style) (applies : style.AppliesTo .value) :
    ∃ default, definition.resolveDefault config = .ok default ∧
      definition.DefaultOrigin (default.value definition.entries) := by
  obtain ⟨index, inside, picked⟩ := value_default_of_applies nonempty applies
  refine ⟨.entry index, ?_, origin_of_index (by simpa [values] using inside)⟩
  simp only [resolveDefault, unnamed, value, effective, picked, bind, Except.bind]
  rfl

/-- Nothing but a misplaced style keeps a valid definition from having a default. -/
theorem resolve_default_cases (config : Config) (valid : Valid config definition) :
    (∃ default, definition.resolveDefault config = .ok default ∧
        definition.DefaultOrigin (default.value definition.entries)) ∧
        (∀ style, ¬definition.MisplacesStyle config style) ∨
      ∃ style, definition.MisplacesStyle config style ∧
        definition.resolveDefault config = .error (.misuse (.styleNeedsFlags style)) := by
  have nonempty := values_nonempty valid
  unfold MisplacesStyle
  cases unnamed : definition.defaultName with
  | some name =>
      exact Or.inl ⟨resolve_default_of_name unnamed (valid .existingDefault name unnamed), by simp⟩
  | none =>
      cases kind : definition.kind with
      | flags =>
          refine Or.inl ⟨resolve_default_of_flags unnamed kind nonempty, ?_⟩
          rintro style ⟨-, -, misplaced⟩
          exact misplaced trivial
      | value =>
          by_cases applies : (definition.effectiveStyle config).AppliesTo .value
          · refine Or.inl ⟨resolve_default_of_value unnamed kind nonempty rfl applies, ?_⟩
            rintro style ⟨-, rfl, misplaced⟩
            exact misplaced applies
          · refine Or.inr ⟨definition.effectiveStyle config, ⟨rfl, rfl, applies⟩, ?_⟩
            have picked := value_default_of_not_applies nonempty applies
            simp only [resolveDefault, unnamed, kind, picked, bind, Except.bind]

theorem admits_flags_iff (flags : definition.kind = .flags) (value : Int) :
    definition.Admits value ↔
      0 ≤ value ∧ Integer.pattern value ||| ValueSet.usedBits definition.values =
        ValueSet.usedBits definition.values := by
  unfold Admits
  rw [flags, ValueSet.or_eq_mask_iff]
  simp only [ValueSet.test_bit_used_bits, values, List.mem_map, exists_exists_and_eq_and]

end Definition

theorem Model.default_of_build {config : Config} {definition : Definition} {model : Model}
    (built : Model.build config definition = .ok model) :
    model.definition = definition ∧
      definition.resolveDefault config = .ok model.metadata.default := by
  unfold Model.build at built
  split at built
  next => cases built
  next sizeType registered =>
    obtain ⟨default, resolved, same⟩ := (Outcome.bind_eq_ok_iff _ _ _).1 built
    obtain rfl := Except.ok.inj same
    have kept : (Metadata.ofValues definition.kind sizeType default definition.values).default =
        default := by
      cases definition.kind <;> rfl
    exact ⟨rfl, resolved.trans (congrArg Except.ok kept.symm)⟩

namespace Model.Validated

variable {config : Config} {model : Model} (validated : model.Validated config)
include validated

theorem used_bits_lt (flags : model.definition.kind = .flags) :
    ValueSet.usedBits model.definition.values < 2 ^ min model.sizeType.effectiveBits 127 := by
  have unsigned := validated.unsigned_of_flags flags
  apply ValueSet.used_bits_lt
  intro value member
  obtain ⟨entry, declared, rfl⟩ := List.mem_map.1 member
  have nonneg := validated.nonneg_of_flags flags entry declared
  have bits := Integer.pattern_of_nonneg nonneg (validated.fits entry declared)
  have below := (validated.holds declared).2
  rw [SizeType.highest_of_unsigned unsigned] at below
  zify
  omega

/-- Also a combination of flags that no single entry has stays inside the storage range. -/
theorem holds_of_admits {value : Int} (fits : Integer.Fits value)
    (admits : model.definition.Admits value) : model.sizeType.Holds value := by
  cases kind : model.definition.kind with
  | value =>
      unfold Definition.Admits at admits
      rw [kind] at admits
      obtain ⟨entry, declared, rfl⟩ := admits
      exact validated.holds declared
  | flags =>
      have unsigned := validated.unsigned_of_flags kind
      obtain ⟨nonneg, inside⟩ := (Definition.admits_flags_iff kind value).1 admits
      have bits := Integer.pattern_of_nonneg nonneg fits
      have covered : Integer.pattern value ≤ ValueSet.usedBits model.definition.values :=
        inside ▸ Nat.left_le_or
      have small := covered.trans_lt (validated.used_bits_lt kind)
      refine ⟨?_, ?_⟩
      · rw [SizeType.lowest_of_unsigned unsigned]
        exact nonneg
      · rw [SizeType.highest_of_unsigned unsigned]
        zify at small
        omega

theorem admits_of_origin {value : Int} (origin : model.definition.DefaultOrigin value) :
    Integer.Fits value ∧ model.definition.Admits value := by
  cases origin with
  | @entry entry member =>
      refine ⟨validated.fits entry member, ?_⟩
      cases kind : model.definition.kind with
      | value =>
          unfold Definition.Admits
          rw [kind]
          exact ⟨entry, member, rfl⟩
      | flags =>
          unfold Definition.Admits
          rw [kind]
          exact ⟨validated.nonneg_of_flags kind entry member, fun _ set => ⟨entry, member, set⟩⟩
  | noFlag flags =>
      refine ⟨by decide, (Definition.admits_flags_iff flags 0).2 ⟨le_refl 0, ?_⟩⟩
      have zero : Integer.pattern 0 = 0 := by decide
      rw [zero, Nat.zero_or]
  | allFlags flags =>
      have power : 2 ^ min model.sizeType.effectiveBits 127 ≤ 2 ^ 127 :=
        Nat.pow_le_pow_right (by omega) (by omega)
      obtain ⟨bits, nonneg, fits⟩ :=
        Integer.pattern_of_pattern ((validated.used_bits_lt flags).trans_le power)
      refine ⟨fits, (Definition.admits_flags_iff flags _).2 ⟨nonneg, ?_⟩⟩
      rw [bits, Nat.or_self]

theorem origin_of_build {definition : Definition}
    (built : Model.build config definition = .ok model) :
    model.definition.DefaultOrigin model.defaultValue := by
  obtain ⟨rfl, resolved⟩ := Model.default_of_build built
  rcases Definition.resolve_default_cases config validated.valid with
    ⟨⟨default, same, origin⟩, -⟩ | ⟨style, -, failed⟩
  · obtain rfl := Except.ok.inj (resolved.symm.trans same)
    exact origin
  · cases resolved.symm.trans failed

end Model.Validated

end EnumHeader
