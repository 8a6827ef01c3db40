import EnumHeader.Proofs.Model.Extremes

/-!
# Models of definitions with the same values

The metadata of an enum say something about the set of its values. Neither the order of the entries
nor their names, nor how many of them share a value, changes the distinct values, the widths, the
contiguity, the used bits or the validity check. The positions of the extreme entries depend on the
order, but the entries there still have the same values.
-/

namespace EnumHeader

set_option autoImplicit false

structure Model.AgreesWith (first second : Model) : Prop where
  uniqueValues : first.metadata.uniqueValues = second.metadata.uniqueValues
  uniqueCount : first.metadata.uniqueCount = second.metadata.uniqueCount
  isContiguous : first.metadata.isContiguous = second.metadata.isContiguous
  storageBits : first.metadata.storageBits = second.metadata.storageBits
  transmissionBits : first.metadata.transmissionBits = second.metadata.transmissionBits
  usedBits : first.metadata.usedBits = second.metadata.usedBits
  validity : first.metadata.validity = second.metadata.validity
  extremes : ∃ min max, first.NamesExtremes min max ∧ second.NamesExtremes min max

/-- Only the default and the positions of the extreme entries see more than the set of the values. -/
theorem Metadata.of_values_congr (kind : Kind) (sizeType : SizeType) (default other : DefaultValue)
    {values others : List Int} (same : ∀ value, value ∈ values ↔ value ∈ others) :
    ofValues kind sizeType default values =
      { ofValues kind sizeType other others with
        default, minEntry := minIndex values, maxEntry := maxIndex values } := by
  have unique := ValueSet.of_list_congr same
  obtain ⟨least, greatest⟩ := ValueSet.extremes_congr same
  cases kind <;> simp only [ofValues, unique, least, greatest]

namespace Model

variable {config : Config} {first second : Definition} {firstModel secondModel : Model}

theorem agrees_of_same_values (kind : first.kind = second.kind)
    (storage : first.sizeIndex = second.sizeIndex)
    (same : ∀ value, value ∈ first.values ↔ value ∈ second.values)
    (firstBuilt : build config first = .ok firstModel)
    (secondBuilt : build config second = .ok secondModel) : firstModel.AgreesWith secondModel := by
  obtain ⟨min, max, named⟩ := names_extremes_of_build firstBuilt
  obtain ⟨min', max', named'⟩ := names_extremes_of_build secondBuilt
  obtain ⟨rfl, registered, default, derived⟩ := build_eq_ok firstBuilt
  obtain ⟨rfl, registered', default', derived'⟩ := build_eq_ok secondBuilt
  have sizeType : firstModel.sizeType = secondModel.sizeType := by
    rw [storage, registered'] at registered
    exact (Option.some.inj registered).symm
  have members : {value | value ∈ firstModel.definition.values} =
      {value | value ∈ secondModel.definition.values} := Set.ext same
  obtain rfl : min = min' := (members ▸ named.least).unique named'.least
  obtain rfl : max = max' := (members ▸ named.greatest).unique named'.greatest
  rw [kind, sizeType, Metadata.of_values_congr _ _ default default' same, ← derived'] at derived
  refine ⟨?_, ?_, ?_, ?_, ?_, ?_, ?_, min, max, named, named'⟩ <;> rw [derived]
  rfl

end Model

/-- Models of one kind and storage type whose entries have the same values agree about them, and the
distinct values are exactly those values in ascending order. -/
theorem models_agree_on_same_values (config : Config) (first second : Definition)
    (firstModel secondModel : Model) (kind : first.kind = second.kind)
    (storage : first.sizeIndex = second.sizeIndex)
    (same : ∀ value, value ∈ first.values ↔ value ∈ second.values)
    (firstBuilt : Model.build config first = .ok firstModel)
    (secondBuilt : Model.build config second = .ok secondModel) :
    firstModel.AgreesWith secondModel ∧
      firstModel.metadata.uniqueValues.Pairwise (· < ·) ∧
      ∀ value, value ∈ firstModel.metadata.uniqueValues ↔
        ∃ entry ∈ first.entries, entry.value = value := by
  obtain ⟨rfl, -, derived⟩ := Model.build_eq_ok firstBuilt
  refine ⟨Model.agrees_of_same_values kind storage same firstBuilt secondBuilt, ?_, ?_⟩
  · rw [Model.unique_values_of_derived derived]
    exact ValueSet.ascending_of_list _
  · intro value
    rw [Model.unique_values_of_derived derived, ValueSet.mem_of_list_iff, Definition.values,
      List.mem_map]

section Reordered

def fewModes : Definition :=
  { name := "Mode", kind := .value, sizeIndex := 0, defaultName := some "Idle",
    entries := [⟨"Idle", 0, ""⟩, ⟨"Far", 127, ""⟩, ⟨"Near", -128, ""⟩] }

def manyModes : Definition :=
  { name := "State", kind := .value, sizeIndex := 0, defaultStyle := some .max,
    entries := [⟨"Top", 127, ""⟩, ⟨"Bottom", -128, ""⟩, ⟨"Peak", 127, ""⟩, ⟨"Zero", 0, ""⟩,
      ⟨"Nil", 0, ""⟩] }

theorem reordered_modes_agree :
    ∃ fewModel manyModel, Model.build {} fewModes = .ok fewModel ∧
      Model.build {} manyModes = .ok manyModel ∧ fewModel.metadata.minEntry = 2 ∧
      manyModel.metadata.minEntry = 1 ∧ fewModel.AgreesWith manyModel := by
  refine ⟨_, _, rfl, rfl, rfl, rfl, ?_⟩
  have same : ∀ value, value ∈ fewModes.values ↔ value ∈ manyModes.values := by
    intro value
    simp only [fewModes, manyModes, Definition.values, List.map_cons, List.map_nil, List.mem_cons]
    grind
  exact (models_agree_on_same_values {} fewModes manyModes _ _ rfl rfl same rfl rfl).1

end Reordered

end EnumHeader
