import EnumHeader.Cpp.Wrapper
import EnumHeader.Proofs.Cpp.Reading.Lines
import EnumHeader.Proofs.Model.Undescribed

/-!
# Wrapper structs without their comments

Unless descriptions are strings of the program as well, all that a description leaves in a generated
struct is a comment: above the struct, or above a constant of its enumeration. Without descriptions
the same struct is generated without these comments.
-/

namespace EnumHeader.Cpp

set_option autoImplicit false

def Enumerator.uncommented (enumerator : Enumerator) : Enumerator :=
  { enumerator with comment := [] }

def Member.uncommented : Member → Member
  | .enumeration name base enumerators =>
      .enumeration name base (enumerators.map Enumerator.uncommented)
  | member => member

def Struct.uncommented (struct : Struct) : Struct :=
  { struct with comment := [], members := struct.members.map Member.uncommented }

namespace Wrapper

variable (config : Config) (model : Model)

theorem declarations_undescribed :
    declarations model.undescribed = (declarations model).map Member.uncommented := by
  have enumerators : model.undescribed.definition.entries.map (enumerator model.undescribed) =
      (model.definition.entries.map (enumerator model)).map Enumerator.uncommented := by
    simp only [Model.undescribed, Definition.undescribed, List.map_map]
    rfl
  have constants : (model.definition.entryNames.map Member.constant).map Member.uncommented =
      model.definition.entryNames.map Member.constant := by
    rw [List.map_map]
    rfl
  have names : model.undescribed.definition.entryNames = model.definition.entryNames :=
    model.definition.entry_names_undescribed
  unfold declarations
  rw [enumerators, names, List.map_append, constants]
  rfl

theorem introspection_undescribed :
    introspection config model.undescribed = introspection config model := by
  have least : model.undescribed.least.name = model.least.name := model.name_entry_at _
  have greatest : model.undescribed.greatest.name = model.greatest.name := model.name_entry_at _
  have rows : model.undescribed.canonicalEntries.map tableRow =
      model.canonicalEntries.map tableRow := by
    rw [Model.canonical_entries_undescribed, List.map_map]
    rfl
  unfold introspection
  rw [least, greatest, rows]
  rfl

theorem name_members_undescribed :
    nameMembers config model.undescribed = nameMembers config model := by
  have table : nameTable config model.undescribed = nameTable config model := by
    unfold nameTable NameTable.ofModel
    rw [show model.undescribed.definition.entryNames = model.definition.entryNames from
      model.definition.entry_names_undescribed]
    rfl
  have lookup : nameLookup config model.undescribed = nameLookup config model := by
    unfold nameLookup Lookup.ofModel
    rw [Model.canonical_entries_undescribed, List.map_map]
    rfl
  unfold nameMembers
  rw [table, lookup]
  rfl

theorem string_members_undescribed (plain : config.stringTable ≠ .namesAndDescriptions) :
    stringMembers config model.undescribed = stringMembers config model := by
  unfold stringMembers
  cases table : config.stringTable with
  | none => rfl
  | names => exact name_members_undescribed config model
  | namesAndDescriptions => exact absurd table plain

theorem default_constant_undescribed :
    defaultConstant model.undescribed = defaultConstant model := by
  have chosen : (model.undescribed.defaultEntry?.getD model.undescribed.least).name =
      (model.defaultEntry?.getD model.least).name := by
    unfold Model.defaultEntry?
    rw [show model.undescribed.metadata = model.metadata from rfl]
    cases model.metadata.default with
    | entry index => exact model.name_entry_at index
    | raw value => exact model.name_entry_at _
  unfold defaultConstant
  rw [chosen]

theorem default_mask_undescribed : defaultMask model.undescribed = defaultMask model := by
  have value : model.undescribed.defaultValue = model.defaultValue := by
    unfold Model.defaultValue
    rw [show model.undescribed.metadata = model.metadata from rfl]
    cases model.metadata.default with
    | entry index => exact model.value_entry_at index
    | raw value => rfl
  unfold defaultMask
  rw [value]

end Wrapper

theorem strings_uncommented (config : Config) (model : Model) :
    (Wrapper.stringMembers config model).map Member.uncommented =
      Wrapper.stringMembers config model := by
  unfold Wrapper.stringMembers
  cases config.stringTable <;> rfl

theorem name_of_wrapper (config : Config) (model : Model) :
    (wrapper config model).name = model.name := by
  unfold wrapper
  cases model.kind <;> rfl

theorem comment_of_wrapper (config : Config) (model : Model) :
    (wrapper config model).comment = commentLines model.definition.description := by
  unfold wrapper
  cases model.kind <;> rfl

/-- The enumeration of the constants is the only member with comments in it. -/
theorem wrapper_members (config : Config) (model : Model) :
    ∃ later, (wrapper config model).members = Wrapper.declarations model ++ later ∧
      later.map Member.uncommented = later := by
  unfold wrapper
  cases model.kind with
  | value =>
      refine ⟨_, by simp only [Wrapper.ofValueEnum, List.append_assoc]; rfl, ?_⟩
      simp only [List.map_append, strings_uncommented]
      rfl
  | flags =>
      refine ⟨_, by simp only [Wrapper.ofFlagsEnum, List.append_assoc]; rfl, ?_⟩
      simp only [List.map_append, strings_uncommented]
      rfl

theorem wrapper_undescribed (config : Config) (model : Model)
    (plain : config.stringTable ≠ .namesAndDescriptions) :
    wrapper config model.undescribed = (wrapper config model).uncommented := by
  unfold wrapper
  rw [show model.undescribed.kind = model.kind from rfl]
  cases model.kind with
  | value =>
      simp only [Wrapper.ofValueEnum, Struct.uncommented, List.map_append, strings_uncommented,
        Wrapper.declarations_undescribed, Wrapper.introspection_undescribed,
        Wrapper.string_members_undescribed config model plain,
        Wrapper.default_constant_undescribed]
      rfl
  | flags =>
      simp only [Wrapper.ofFlagsEnum, Struct.uncommented, List.map_append, strings_uncommented,
        Wrapper.declarations_undescribed, Wrapper.introspection_undescribed,
        Wrapper.string_members_undescribed config model plain,
        Wrapper.default_mask_undescribed]
      rfl

end EnumHeader.Cpp
