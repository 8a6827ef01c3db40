import EnumHeader.Config.Check
import EnumHeader.Proofs.Outcome
import Mathlib.Data.List.Nodup
import Mathlib.Tactic.SplitIfs

/-!
# When a configuration passes its check

Each part of the check succeeds exactly when its rule is met, and the whole check exactly when all of
them are. The registry is gone through with the names that came before, so its rule is stated for any
names that are taken already.
-/

namespace EnumHeader

set_option autoImplicit false

open Outcome (bind_eq_ok_iff check_bind_eq_ok_iff)

/-- A storage type that an enum can be generated with, whatever else is registered. -/
structure SizeType.Usable (sizeType : SizeType) : Prop where
  width : 1 ≤ sizeType.bits ∧ sizeType.bits ≤ 128
  spelled : ∃ c ∈ sizeType.typeName.toList, Text.isBlank c = false

namespace Config

theorem check_eq_ok_iff (config : Config) :
    config.check = .ok () ↔
      checkIdentifiers "namespace" config.namespacePath = .ok () ∧
        checkIdentifiers "runtime_namespace" [config.runtimeNamespace] = .ok () ∧
        checkIdentifiers "include_guard_macro" config.guardMacro.toList = .ok () ∧
        checkIndent config.indent = .ok () ∧
        checkRegistry config.sizeTypes = .ok () ∧
        (∃ index, config.defaultSizeIndex .value = .ok index) ∧
        (∃ index, config.defaultSizeIndex .flags = .ok index) ∧
        checkValueStyle config.valueDefaultStyle = .ok () := by
  unfold check
  simp only [check_bind_eq_ok_iff]
  simp only [bind_eq_ok_iff, exists_and_right]

theorem check_identifiers_eq_ok_iff (key : String) (names : List String) :
    checkIdentifiers key names = .ok () ↔ ∀ name ∈ names, Text.isIdentifier name = true := by
  induction names with
  | nil => exact ⟨fun _ => nofun, fun _ => rfl⟩
  | cons name rest ih =>
      have step : checkIdentifiers key (name :: rest) =
          ((if Text.isIdentifier name then .ok () else .error (.invalidValue key name)) >>=
            fun _ => checkIdentifiers key rest) := rfl
      rw [step, check_bind_eq_ok_iff, ih, List.forall_mem_cons]
      cases Text.isIdentifier name <;> simp

theorem check_indent_eq_ok_iff (indent : String) :
    checkIndent indent = .ok () ↔ ∀ c ∈ indent.toList, c = ' ' ∨ c = '\t' := by
  unfold checkIndent
  split
  next blank => simpa using blank
  next marked => simpa using marked

theorem check_size_type_eq_ok_iff (seen : List String) (sizeType : SizeType) :
    checkSizeType seen sizeType = .ok () ↔ sizeType.name ∉ seen ∧ sizeType.Usable := by
  unfold checkSizeType
  split_ifs with taken narrow blank
  · have listed : sizeType.name ∈ seen := by simpa using taken
    simp [listed]
  · have unusable : ¬sizeType.Usable := fun usable => by
      have width := usable.width
      omega
    simp [unusable]
  · have unusable : ¬sizeType.Usable := fun usable => by
      obtain ⟨c, member, marked⟩ := usable.spelled
      have white := List.all_eq_true.1 blank c member
      rw [marked] at white
      cases white
    simp [unusable]
  · have free : sizeType.name ∉ seen := by simpa using taken
    have marked : ∃ c ∈ sizeType.typeName.toList, Text.isBlank c = false := by
      simpa [Text.isBlankText] using blank
    exact ⟨fun _ => ⟨free, ⟨by omega, by omega⟩, marked⟩, fun _ => rfl⟩

theorem check_size_types_eq_ok_iff (seen : List String) (sizeTypes : List SizeType) :
    checkSizeTypes seen sizeTypes = .ok () ↔
      (sizeTypes.map SizeType.name).Nodup ∧
        ∀ sizeType ∈ sizeTypes, sizeType.name ∉ seen ∧ sizeType.Usable := by
  induction sizeTypes generalizing seen with
  | nil => exact ⟨fun _ => ⟨List.nodup_nil, nofun⟩, fun _ => rfl⟩
  | cons first rest ih =>
      rw [checkSizeTypes, check_bind_eq_ok_iff, check_size_type_eq_ok_iff, ih, List.map_cons,
        List.nodup_cons, List.forall_mem_cons]
      simp only [List.mem_append, List.mem_singleton, not_or, List.mem_map]
      constructor
      · rintro ⟨head, distinct, others⟩
        refine ⟨⟨?_, distinct⟩, head, fun sizeType member => ?_⟩
        · rintro ⟨sizeType, member, same⟩
          exact (others sizeType member).1.2 same
        · exact ⟨(others sizeType member).1.1, (others sizeType member).2⟩
      · rintro ⟨⟨fresh, distinct⟩, head, others⟩
        refine ⟨head, distinct, fun sizeType member => ?_⟩
        exact ⟨⟨(others sizeType member).1, fun same => fresh ⟨sizeType, member, same⟩⟩,
          (others sizeType member).2⟩

theorem check_registry_eq_ok_iff (sizeTypes : List SizeType) :
    checkRegistry sizeTypes = .ok () ↔
      sizeTypes ≠ [] ∧ (sizeTypes.map SizeType.name).Nodup ∧
        ∀ sizeType ∈ sizeTypes, sizeType.Usable := by
  unfold checkRegistry
  split_ifs with empty
  · have none : sizeTypes = [] := by simpa using empty
    simp [none]
  · have some : sizeTypes ≠ [] := by simpa using empty
    rw [check_size_types_eq_ok_iff]
    simp [some]

theorem exists_size_index_iff (config : Config) (name : String) :
    (∃ index, config.sizeIndexOf name = .ok index) ↔
      name ∈ config.sizeTypes.map SizeType.name := by
  unfold sizeIndexOf
  cases found : config.sizeTypes.findIdx? (·.name = name) with
  | none =>
      have absent := List.findIdx?_eq_none_iff.1 found
      simpa using absent
  | some index =>
      obtain ⟨inside, named, -⟩ := List.findIdx?_eq_some_iff_getElem.1 found
      have listed : name ∈ config.sizeTypes.map SizeType.name :=
        List.mem_map.2 ⟨_, List.getElem_mem inside, by simpa using named⟩
      simp [listed]

theorem check_value_style_eq_ok_iff (style : DefaultStyle) :
    checkValueStyle style = .ok () ↔ style ≠ .zero ∧ style ≠ .usedBitsSet := by
  unfold checkValueStyle
  split
  next applies => exact ⟨fun _ => applies, fun _ => rfl⟩
  next misplaced => exact ⟨nofun, fun applies => absurd applies misplaced⟩

end Config

end EnumHeader
