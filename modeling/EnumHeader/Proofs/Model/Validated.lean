import EnumHeader.Model
import EnumHeader.Proofs.Validation.Order
import EnumHeader.Proofs.ValueSet
import Mathlib.Data.List.Nodup

/-!
# Models of validated definitions

What the checks that come before the derivation of a model leave true of the model. Everything that
is said about generated text and about validity checks starts from here.
-/

namespace EnumHeader

set_option autoImplicit false

open Validation (Valid)

/-- The model of a definition that passed validation under an accepted configuration. -/
structure Model.Validated (config : Config) (model : Model) : Prop where
  accepted : config.Accepted
  fits : model.definition.Fits
  valid : Valid config model.definition
  registered : config.sizeTypes[model.definition.sizeIndex]? = some model.sizeType
  derived : ∃ default, model.metadata =
    Metadata.ofValues model.definition.kind model.sizeType default model.definition.values

theorem Model.build_eq_ok {config : Config} {definition : Definition} {model : Model}
    (built : Model.build config definition = .ok model) :
    model.definition = definition ∧
      config.sizeTypes[definition.sizeIndex]? = some model.sizeType ∧
      ∃ default, model.metadata =
        Metadata.ofValues definition.kind model.sizeType default definition.values := by
  unfold Model.build at built
  split at built
  next => cases built
  next sizeType registered =>
    obtain ⟨default, _, same⟩ := (Outcome.bind_eq_ok_iff _ _ _).1 built
    obtain rfl := Except.ok.inj same
    exact ⟨rfl, registered, default, rfl⟩

theorem Model.unique_values_of_derived {model : Model}
    (derived : ∃ default, model.metadata =
      Metadata.ofValues model.definition.kind model.sizeType default model.definition.values) :
    model.metadata.uniqueValues = ValueSet.ofList model.definition.values := by
  obtain ⟨default, derived⟩ := derived
  rw [derived]
  cases model.definition.kind <;> rfl

theorem Validity.scan_of_values {sizeType : SizeType} {values listed : List Int}
    (chosen : Validity.ofValues sizeType values = .scan listed) : listed = values := by
  unfold Validity.ofValues at chosen
  split at chosen
  next =>
    split_ifs at chosen
    exact (Validity.scan.inj chosen).symm
  next none =>
    obtain rfl := Validity.scan.inj chosen
    cases values with
    | nil => rfl
    | cons first rest =>
        obtain ⟨_, last⟩ := Option.ne_none_iff_exists'.1
          (mt List.getLast?_eq_none_iff.1 (List.cons_ne_nil first rest))
        exact absurd last (none first _ rfl)

/-- The table that the check of a model searches ascends. -/
theorem Model.ascending_of_scan {config : Config} {definition : Definition} {model : Model}
    (built : Model.build config definition = .ok model) {listed : List Int}
    (scan : model.metadata.validity = .scan listed) : listed.Pairwise (· < ·) := by
  obtain ⟨-, -, default, derived⟩ := Model.build_eq_ok built
  rw [derived] at scan
  cases kind : definition.kind with
  | value =>
      rw [kind] at scan
      rw [Validity.scan_of_values scan]
      exact ValueSet.ascending_of_list definition.values
  | flags =>
      simp only [kind, Metadata.ofValues, Validity.ofFlags] at scan
      split_ifs at scan

/-- The search of the check therefore finds what the table holds. -/
theorem Model.accepts_of_scan {config : Config} {definition : Definition} {model : Model}
    (built : Model.build config definition = .ok model) {listed : List Int}
    (scan : model.metadata.validity = .scan listed) (value : Int) :
    model.metadata.validity.accepts value = true ↔ value ∈ listed := by
  rw [scan]
  exact ValueSet.search_iff (Model.ascending_of_scan built scan) value

theorem Model.definitions_of_build_all {config : Config} {definitions : List Definition}
    {models : List Model} (built : Model.buildAll config definitions = .ok models) :
    models.map Model.definition = definitions := by
  have each := Outcome.map_m_forall built
  clear built
  induction each with
  | nil => rfl
  | cons build _ ih => rw [List.map_cons, (Model.build_eq_ok build).1, ih]

theorem Model.mem_of_build_all {config : Config} {definitions : List Definition}
    {models : List Model} (built : Model.buildAll config definitions = .ok models) {model : Model}
    (member : model ∈ models) :
    ∃ definition ∈ definitions, Model.build config definition = .ok model := by
  unfold Model.buildAll at built
  induction definitions generalizing models with
  | nil =>
      obtain rfl := Except.ok.inj built
      cases member
  | cons definition rest ih =>
      rw [List.mapM_cons, Outcome.bind_eq_ok_iff] at built
      obtain ⟨first, build, built⟩ := built
      rw [Outcome.bind_eq_ok_iff] at built
      obtain ⟨later, builtLater, same⟩ := built
      obtain rfl := Except.ok.inj same
      rcases List.mem_cons.1 member with rfl | inside
      · exact ⟨definition, List.mem_cons_self, build⟩
      · obtain ⟨other, declared, build⟩ := ih builtLater inside
        exact ⟨other, List.mem_cons_of_mem _ declared, build⟩

theorem Model.validated_of_build {config : Config} {definitions : List Definition}
    {definition : Definition} {model : Model} (checked : config.check = .ok ())
    (passed : Validation.validate config definitions = .ok ()) (member : definition ∈ definitions)
    (built : Model.build config definition = .ok model) :
    model.definition = definition ∧ model.Validated config := by
  obtain ⟨rfl, registered, derived⟩ := Model.build_eq_ok built
  obtain ⟨fits, valid⟩ := Validation.valid_of_validate checked passed model.definition member
  exact ⟨rfl, Config.accepted_of_check checked, fits, valid, registered, derived⟩

namespace Model.Validated

variable {config : Config} {model : Model} (validated : model.Validated config)
include validated

theorem width : model.sizeType.effectiveBits = model.sizeType.bits :=
  validated.accepted.effective_bits (List.mem_of_getElem? validated.registered)

theorem width_bounds : 1 ≤ model.sizeType.bits ∧ model.sizeType.bits ≤ 128 :=
  validated.accepted.widths model.sizeType (List.mem_of_getElem? validated.registered)

theorem represents {entry : Entry} (member : entry ∈ model.definition.entries) :
    model.sizeType.Represents entry.value :=
  validated.valid .representableValues model.sizeType validated.registered entry member

theorem holds {entry : Entry} (member : entry ∈ model.definition.entries) :
    model.sizeType.Holds entry.value :=
  (Validation.holds_iff_represents_of_registered validated.accepted validated.fits
    validated.registered member).2 (validated.represents member)

theorem names_distinct : model.definition.entryNames.Nodup :=
  validated.valid .distinctNames

theorem find_by_name {entry : Entry} (member : entry ∈ model.definition.entries) :
    model.definition.entries.find? (·.name = entry.name) = some entry := by
  cases found : model.definition.entries.find? (·.name = entry.name) with
  | none => simpa using List.find?_eq_none.1 found entry member
  | some other =>
      have named : other.name = entry.name := by simpa using List.find?_some found
      rw [List.inj_on_of_nodup_map validated.names_distinct (List.mem_of_find?_eq_some found) member
        named]

theorem unsigned_of_flags (flags : model.definition.kind = .flags) :
    model.sizeType.signed = false :=
  validated.valid .unsignedFlags flags model.sizeType validated.registered

theorem nonneg_of_flags (flags : model.definition.kind = .flags) :
    ∀ entry ∈ model.definition.entries, 0 ≤ entry.value :=
  validated.valid .nonnegativeFlags flags

theorem unique_values : model.metadata.uniqueValues = ValueSet.ofList model.definition.values :=
  Model.unique_values_of_derived validated.derived

theorem ascending : model.metadata.uniqueValues.Pairwise (· < ·) :=
  validated.unique_values ▸ ValueSet.ascending_of_list model.definition.values

theorem validity_of_value (kind : model.definition.kind = .value) :
    model.metadata.validity =
      Validity.ofValues model.sizeType (ValueSet.ofList model.definition.values) := by
  obtain ⟨default, derived⟩ := validated.derived
  rw [derived, kind]
  rfl

theorem validity_of_flags (kind : model.definition.kind = .flags) :
    model.metadata.validity =
      Validity.ofFlags model.sizeType
        (ValueSet.usedBits (ValueSet.ofList model.definition.values)) := by
  obtain ⟨default, derived⟩ := validated.derived
  rw [derived, kind]
  rfl

end Model.Validated

end EnumHeader
