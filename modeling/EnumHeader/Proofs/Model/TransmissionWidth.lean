import EnumHeader.Proofs.Model.Extremes
import EnumHeader.Proofs.Model.StorageWidth

/-!
# The transmission width of a model

A value enum is sent as the distance from its smallest value, and its transmission width is the
least in which each of these distances can be written. The distance is taken modulo 2^128, which
loses nothing, not even between the two ends of all entry values. A flags enum is sent as it is
stored. Sending a value never takes more bits than storing it.
-/

namespace EnumHeader

set_option autoImplicit false

/-- The numbers of bits in which the distance of each declared value from the smallest one can be
written. -/
def Model.DistanceWidths (model : Model) : Set Nat :=
  {bits | ∀ value ∈ model.definition.values, value - model.least.value < 2 ^ bits}

namespace Model.Validated

variable {config : Config} {model : Model} (validated : model.Validated config)
include validated

theorem extreme_entries :
    IsLeast {value | value ∈ model.definition.values} model.least.value ∧
      IsGreatest {value | value ∈ model.definition.values} model.greatest.value := by
  obtain ⟨min, max, named⟩ :=
    Model.names_extremes (Definition.values_nonempty validated.valid) validated.derived
  have minValue : model.least.value = min := Model.value_entry_at_of_first named.minEntry
  have maxValue : model.greatest.value = max := Model.value_entry_at_of_first named.maxEntry
  rw [minValue, maxValue]
  exact ⟨named.least, named.greatest⟩

theorem fits_of_mem {value : Int} (member : value ∈ model.definition.values) :
    Integer.Fits value :=
  (validated.admits_of_mem member).1

theorem extremes_ordered : model.least.value ≤ model.greatest.value :=
  validated.extreme_entries.1.2 validated.extreme_entries.2.1

/-- The distance between the extremes is exact, although it is taken modulo 2^128. -/
theorem pattern_of_extremes :
    (Integer.pattern (model.greatest.value - model.least.value) : Int) =
      model.greatest.value - model.least.value :=
  Integer.pattern_of_distance validated.extremes_ordered
    (validated.fits_of_mem validated.extreme_entries.1.1)
    (validated.fits_of_mem validated.extreme_entries.2.1)

theorem transmission_bits_eq : model.metadata.transmissionBits =
    Width.transmission model.definition.kind model.least.value model.greatest.value := by
  obtain ⟨min, max, least, greatest, -⟩ := validated.extremes
  obtain ⟨minEntry, maxEntry⟩ := validated.extreme_entries
  obtain ⟨default, derived⟩ := validated.derived
  have minValue : min = model.least.value :=
    (ValueSet.min_eq_some_iff.1 least).unique minEntry
  have maxValue : max = model.greatest.value :=
    (ValueSet.max_eq_some_iff.1 greatest).unique maxEntry
  rw [derived, ← minValue, ← maxValue]
  cases model.definition.kind <;> simp [Metadata.ofValues, least, greatest]

section Value

variable (kind : model.definition.kind = .value)
include kind

theorem transmission_bits_le_iff (bits : Nat) :
    model.metadata.transmissionBits ≤ bits ↔ bits ∈ model.DistanceWidths := by
  obtain ⟨least, greatest⟩ := validated.extreme_entries
  rw [validated.transmission_bits_eq, kind,
    Width.transmission_le_iff validated.extremes_ordered (validated.fits_of_mem least.1)
      (validated.fits_of_mem greatest.1)]
  constructor
  · intro narrow value member
    have below : value ≤ model.greatest.value := greatest.2 member
    omega
  · intro narrow
    exact narrow model.greatest.value greatest.1

theorem transmission_bits_least : IsLeast model.DistanceWidths model.metadata.transmissionBits := by
  constructor
  · exact (validated.transmission_bits_le_iff kind _).1 le_rfl
  · intro bits narrow
    exact (validated.transmission_bits_le_iff kind bits).2 narrow

theorem transmission_bits_eq_zero_iff :
    model.metadata.transmissionBits = 0 ↔ model.metadata.uniqueCount = 1 := by
  obtain ⟨least, -⟩ := validated.extreme_entries
  rw [Metadata.uniqueCount, validated.unique_values, ValueSet.length_of_list_eq_one_iff,
    ← Nat.le_zero, validated.transmission_bits_le_iff kind]
  constructor
  · intro narrow
    refine ⟨model.least.value, fun value => ⟨fun member => ?_, fun same => same ▸ least.1⟩⟩
    have near := narrow value member
    have above : model.least.value ≤ value := least.2 member
    omega
  · rintro ⟨only, same⟩ value member
    have first := (same model.least.value).1 least.1
    have other := (same value).1 member
    rw [first, other, sub_self]
    exact zero_lt_one

/-- A field that holds both extremes has at least as many values as lie between them. -/
theorem transmission_bits_le_storage_of_value :
    model.metadata.transmissionBits ≤ model.metadata.storageBits := by
  obtain ⟨least, greatest⟩ := validated.extreme_entries
  have holds := (validated.storage_bits_of_value kind model.metadata.storageBits).1 le_rfl
  apply (validated.transmission_bits_le_iff kind _).2
  intro value member
  exact (holds model.least.value least.1).distance_lt (holds value member)

end Value

theorem transmission_bits_of_flags (kind : model.definition.kind = .flags) :
    model.metadata.transmissionBits = model.metadata.storageBits := by
  obtain ⟨default, derived⟩ := validated.derived
  rw [derived, kind]
  rfl

end Model.Validated

structure Model.SendsDistances (model : Model) : Prop where
  least : IsLeast {value | value ∈ model.definition.values} model.least.value
  greatest : IsGreatest {value | value ∈ model.definition.values} model.greatest.value
  /-- No bit of the largest distance is lost. -/
  exact : (Integer.pattern (model.greatest.value - model.least.value) : Int) =
    model.greatest.value - model.least.value
  ofValue : model.definition.kind = .value →
    IsLeast model.DistanceWidths model.metadata.transmissionBits ∧
      (model.metadata.transmissionBits = 0 ↔ model.metadata.uniqueCount = 1)
  ofFlags : model.definition.kind = .flags →
    model.metadata.transmissionBits = model.metadata.storageBits
  sent : model.metadata.transmissionBits ≤ model.metadata.storageBits
  stored : model.metadata.storageBits ≤ model.sizeType.bits

/-- Under an accepted configuration, the transmission width of a validated value enum is the least
for the distances from its smallest value, that of a flags enum is its storage width, and neither
exceeds the storage width. -/
theorem transmission_sends_distances (config : Config) (definitions : List Definition)
    (definition : Definition) (model : Model) (checked : config.check = .ok ())
    (passed : Validation.validate config definitions = .ok ()) (member : definition ∈ definitions)
    (built : Model.build config definition = .ok model) :
    model.definition = definition ∧ model.SendsDistances := by
  obtain ⟨same, validated⟩ := Model.validated_of_build checked passed member built
  refine ⟨same, ?_⟩
  constructor
  · exact validated.extreme_entries.1
  · exact validated.extreme_entries.2
  · exact validated.pattern_of_extremes
  · intro kind
    exact ⟨validated.transmission_bits_least kind, validated.transmission_bits_eq_zero_iff kind⟩
  · exact validated.transmission_bits_of_flags
  · cases kind : model.definition.kind with
    | value => exact validated.transmission_bits_le_storage_of_value kind
    | flags => exact (validated.transmission_bits_of_flags kind).le
  · exact validated.storage_bits_le_bits

section Ends

def widest : Config :=
  { valueSizeType := "int128", flagsSizeType := "int128",
    sizeTypes := [⟨"int128", 128, true, "__int128"⟩] }

def farApart : Definition :=
  { name := "Sign", kind := .value, sizeIndex := 0,
    entries := [⟨"Most", Integer.greatest, ""⟩, ⟨"Least", Integer.least, ""⟩] }

theorem distance_of_far_values :
    widest.check = .ok () ∧ Validation.validate widest [farApart] = .ok () ∧
      ∃ model, Model.build widest farApart = .ok model ∧ model.SendsDistances ∧
        model.greatest.value - model.least.value = 2 ^ 128 - 1 ∧
        IsLeast model.DistanceWidths 128 := by
  refine ⟨rfl, rfl, _, rfl, ?_⟩
  have sends := (transmission_sends_distances widest [farApart] farApart _ rfl rfl (by simp) rfl).2
  exact ⟨sends, rfl, (sends.ofValue rfl).1⟩

end Ends

end EnumHeader
