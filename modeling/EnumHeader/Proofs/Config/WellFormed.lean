import EnumHeader.Proofs.Config.Check
import EnumHeader.Proofs.Text.Identifier

/-!
# Well-formed configurations

The rules of a configuration, each on its own and without an order, and that the check accepts
exactly the configurations that meet all of them. What is looked up in such a registry is found at its
own position, and the start of every macro name is shaped like a name.
-/

namespace EnumHeader.Config

set_option autoImplicit false

structure WellFormed (config : Config) : Prop where
  path : ∀ segment ∈ config.namespacePath, Text.IsIdentifier segment
  runtime : Text.IsIdentifier config.runtimeNamespace
  guard : ∀ name, config.guardMacro = some name → Text.IsIdentifier name
  blankIndent : ∀ c ∈ config.indent.toList, c = ' ' ∨ c = '\t'
  someType : config.sizeTypes ≠ []
  distinctTypes : (config.sizeTypes.map SizeType.name).Nodup
  usableTypes : ∀ sizeType ∈ config.sizeTypes, sizeType.Usable
  valueType : config.valueSizeType ∈ config.sizeTypes.map SizeType.name
  flagsType : config.flagsSizeType ∈ config.sizeTypes.map SizeType.name
  valueStyle : config.valueDefaultStyle ≠ .zero ∧ config.valueDefaultStyle ≠ .usedBitsSet

variable {config : Config}

theorem check_eq_ok_iff_well_formed : config.check = .ok () ↔ config.WellFormed := by
  have own : (∀ name ∈ [config.runtimeNamespace], Text.IsIdentifier name) ↔
      Text.IsIdentifier config.runtimeNamespace := List.forall_mem_singleton
  have given : (∀ name ∈ config.guardMacro.toList, Text.IsIdentifier name) ↔
      ∀ name, config.guardMacro = some name → Text.IsIdentifier name := by
    simp only [Option.mem_toList]
  simp only [check_eq_ok_iff, check_identifiers_eq_ok_iff, Text.is_identifier_iff, own, given,
    check_indent_eq_ok_iff, check_registry_eq_ok_iff, defaultSizeIndex, exists_size_index_iff,
    defaultSizeName, check_value_style_eq_ok_iff]
  constructor
  · rintro ⟨path, runtime, guard, indent, ⟨someType, distinct, usable⟩, value, flags, style⟩
    exact ⟨path, runtime, guard, indent, someType, distinct, usable, value, flags, style⟩
  · intro rules
    exact ⟨rules.path, rules.runtime, rules.guard, rules.blankIndent,
      ⟨rules.someType, rules.distinctTypes, rules.usableTypes⟩, rules.valueType, rules.flagsType,
      rules.valueStyle⟩

theorem size_index_of_registered (distinct : (config.sizeTypes.map SizeType.name).Nodup)
    {index : Nat} {sizeType : SizeType} (registered : config.sizeTypes[index]? = some sizeType) :
    config.sizeIndexOf sizeType.name = .ok index := by
  obtain ⟨inside, rfl⟩ := List.getElem?_eq_some_iff.1 registered
  have found : config.sizeTypes.findIdx? (·.name = config.sizeTypes[index].name) = some index := by
    refine List.findIdx?_eq_some_iff_getElem.2 ⟨inside, by simp, ?_⟩
    intro earlier before
    have different := List.pairwise_iff_getElem.1 distinct earlier index (by simp; omega)
      (by simpa using inside) before
    simpa using different
  unfold sizeIndexOf
  rw [found]

theorem shaped_macro_prefix (runtime : Text.IsIdentifier config.runtimeNamespace) :
    Text.IsNameShaped config.macroPrefix.toList := by
  have shaped := (Text.is_name_shaped_iff _).2 runtime.shaped
  rw [macroPrefix, String.toList_ofList]
  exact (Text.is_name_shaped_iff _).1 (Text.is_name_shaped_upper shaped)

/-- The check accepts exactly the well-formed configurations, and in these every registered storage
type is found by its name and the start of the macro names has the shape of a name. -/
theorem check_decides_well_formed (config : Config) :
    (config.check = .ok () ↔ config.WellFormed) ∧
      (config.check = .ok () →
        (∀ index sizeType, config.sizeTypes[index]? = some sizeType →
          config.sizeIndexOf sizeType.name = .ok index) ∧
        Text.IsNameShaped config.macroPrefix.toList) := by
  refine ⟨check_eq_ok_iff_well_formed, fun checked => ?_⟩
  have rules := check_eq_ok_iff_well_formed.1 checked
  exact ⟨fun _ _ registered => size_index_of_registered rules.distinctTypes registered,
    shaped_macro_prefix rules.runtime⟩

/-- Two storage types of the extreme widths, and a namespace of the shared templates that has no
letter at its start. -/
def extremeWidths : Config :=
  { namespacePath := ["acme", "_gen2"], guardMacro := some "ACME_H", indent := "\t",
    runtimeNamespace := "_2nd_rt", valueSizeType := "bit", flagsSizeType := "wide",
    sizeTypes := [⟨"bit", 1, false, "bool"⟩, ⟨"wide", 128, false, " unsigned __int128"⟩] }

theorem extreme_widths_are_looked_up :
    extremeWidths.check = .ok () ∧ extremeWidths.WellFormed ∧
      extremeWidths.sizeIndexOf "wide" = .ok 1 ∧
      extremeWidths.macroPrefix = "_2ND_RT" ∧ Text.IsNameShaped "_2ND_RT".toList := by
  have checked : extremeWidths.check = .ok () := rfl
  have start : extremeWidths.macroPrefix = "_2ND_RT" := by decide +kernel
  obtain ⟨decides, follows⟩ := check_decides_well_formed extremeWidths
  obtain ⟨found, shaped⟩ := follows checked
  exact ⟨checked, decides.1 checked, found 1 _ rfl, start, start ▸ shaped⟩

end EnumHeader.Config
