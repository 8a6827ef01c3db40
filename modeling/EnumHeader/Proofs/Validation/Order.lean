import EnumHeader.Proofs.Validation.Requirement

/-!
# The first violation

Validation succeeds exactly on lists with distinct names of valid definitions. On any other list it
reports one violation, the first in the order of the requirements: repeated names of enums before
all else, then definition by definition, requirement by requirement and entry by entry.
-/

namespace EnumHeader.Validation

set_option autoImplicit false

def Valid (config : Config) (definition : Definition) : Prop :=
  ∀ requirement : Requirement, requirement.Met config definition

inductive FirstViolation (config : Config) (definitions : List Definition) (failure : Failure) :
    Prop where
  /-- The earliest definition whose name occurred before. -/
  | repeatedName (definition : Definition)
      (earliest : Earliest (fun before other => other.name ∈ before.map Definition.name) definitions
        definition)
      (reported : Failure.violation (.repeatedEnumName definition.name) = failure)
  /-- The first requirement that is broken by the earliest invalid definition. -/
  | brokenRequirement (definition : Definition) (requirement : Requirement)
      (distinct : (definitions.map Definition.name).Nodup)
      (earliest : Earliest (fun _ other => ¬Valid config other) definitions definition)
      (first : Earliest (fun _ other => ¬other.Met config definition) Requirement.order requirement)
      (reported : requirement.Reports config definition failure)

section Definitions

variable {config : Config} {definition : Definition}

theorem definition_fault_eq_none_iff (accepted : config.Accepted) (fits : definition.Fits) :
    definitionFault config definition = none ↔ Valid config definition := by
  unfold definitionFault Valid
  rw [← Requirement.order_map_rule]
  simp only [List.findSome?_eq_none_iff, List.forall_mem_map, rule_eq_none_iff accepted fits]
  constructor
  · intro met requirement
    exact met requirement requirement.mem_order
  · intro met requirement _
    exact met requirement

theorem definition_fault_eq_some_iff (accepted : config.Accepted) (fits : definition.Fits)
    (failure : Failure) :
    definitionFault config definition = some failure ↔
      ∃ requirement : Requirement,
        Earliest (fun _ other => ¬other.Met config definition) Requirement.order requirement ∧
          requirement.Reports config definition failure := by
  unfold definitionFault
  rw [← Requirement.order_map_rule, List.findSome?_map, find_some_eq_some_iff_earliest]
  simp only [Function.comp_apply, ne_eq, rule_eq_none_iff accepted fits,
    rule_eq_some_iff accepted fits]

end Definitions

section Lists

variable {config : Config} {definitions : List Definition}

theorem fault_eq_none_iff (accepted : config.Accepted)
    (fits : ∀ definition ∈ definitions, definition.Fits) :
    fault config definitions = none ↔
      (definitions.map Definition.name).Nodup ∧
        ∀ definition ∈ definitions, Valid config definition := by
  rw [← first_repeated_eq_none_iff_nodup]
  unfold fault
  split
  next name repeated => simp [repeated]
  next distinct =>
    rw [List.findSome?_eq_none_iff]
    simp only [distinct, true_and]
    exact forall₂_congr fun definition member =>
      definition_fault_eq_none_iff accepted (fits definition member)

theorem find_definition_fault_eq_some_iff (accepted : config.Accepted)
    (fits : ∀ definition ∈ definitions, definition.Fits) (failure : Failure) :
    definitions.findSome? (definitionFault config) = some failure ↔
      ∃ definition, Earliest (fun _ other => ¬Valid config other) definitions definition ∧
        ∃ requirement : Requirement,
          Earliest (fun _ other => ¬other.Met config definition) Requirement.order requirement ∧
            requirement.Reports config definition failure := by
  have invalid : ∀ definition, Earliest (fun _ other => definitionFault config other ≠ none)
      definitions definition ↔ Earliest (fun _ other => ¬Valid config other) definitions definition :=
    fun _ => earliest_congr fun _ other member =>
      not_congr (definition_fault_eq_none_iff accepted (fits other member))
  rw [find_some_eq_some_iff_earliest]
  refine exists_congr fun definition => ?_
  rw [invalid definition]
  refine and_congr_right fun earliest => ?_
  obtain ⟨before, after, split, -⟩ := earliest
  exact definition_fault_eq_some_iff accepted (fits definition (by simp [split])) failure

theorem fault_eq_some_iff (accepted : config.Accepted)
    (fits : ∀ definition ∈ definitions, definition.Fits) (failure : Failure) :
    fault config definitions = some failure ↔ FirstViolation config definitions failure := by
  have repeats := first_repeated_map_eq_some_iff Definition.name definitions
  unfold fault
  split
  next name repeated =>
    constructor
    · intro reported
      obtain ⟨definition, earliest, rfl⟩ := (repeats name).1 repeated
      exact .repeatedName definition earliest (Option.some.inj reported)
    · intro first
      cases first with
      | repeatedName definition earliest reported =>
          have again := (repeats definition.name).2 ⟨definition, earliest, rfl⟩
          rw [repeated] at again
          rw [Option.some.inj again, reported]
      | brokenRequirement _ _ distinct =>
          -- While a name repeats, no requirement is looked at.
          rw [← first_repeated_eq_none_iff_nodup, repeated] at distinct
          cases distinct
  next distinct =>
    rw [find_definition_fault_eq_some_iff accepted fits]
    constructor
    · rintro ⟨definition, earliest, requirement, first, reported⟩
      exact .brokenRequirement definition requirement
        ((first_repeated_eq_none_iff_nodup _).1 distinct) earliest first reported
    · intro first
      cases first with
      | repeatedName definition earliest reported =>
          have again := (repeats definition.name).2 ⟨definition, earliest, rfl⟩
          rw [distinct] at again
          cases again
      | brokenRequirement definition requirement _ earliest first reported =>
          exact ⟨definition, earliest, requirement, first, reported⟩

theorem validate_eq_ok_iff_fault : validate config definitions = .ok () ↔
    fault config definitions = none := by
  unfold validate
  split <;> simp_all

theorem validate_eq_error_iff_fault (failure : Failure) :
    validate config definitions = .error failure ↔ fault config definitions = some failure := by
  unfold validate
  split <;> simp_all

/-- A definition that no rule objects to has values that its storage type holds, and these have at
most 128 bits. -/
theorem fits_of_no_fault {definition : Definition} (silent : definitionFault config definition = none) :
    definition.Fits := by
  have rules := List.findSome?_eq_none_iff.1 silent
  have registered := rules registeredStorage (by simp [Validation.rules])
  have representable := rules representableValues (by simp [Validation.rules])
  unfold registeredStorage at registered
  unfold representableValues at representable
  intro entry member
  split at registered
  next sizeType found =>
    rw [found] at representable
    have holds := (first_entry_eq_none_iff _ _ _).1 representable entry member
    exact sizeType.fits_of_holds (by simpa using holds)
  next => cases registered

theorem valid_of_validate (checked : config.check = .ok ())
    (passed : validate config definitions = .ok ()) :
    ∀ definition ∈ definitions, definition.Fits ∧ Valid config definition := by
  have silent := validate_eq_ok_iff_fault.1 passed
  unfold fault at silent
  split at silent
  next => cases silent
  next =>
    intro definition member
    have faultless := List.findSome?_eq_none_iff.1 silent definition member
    have fits := fits_of_no_fault faultless
    exact ⟨fits,
      (definition_fault_eq_none_iff (Config.accepted_of_check checked) fits).1 faultless⟩

end Lists

/-- Validation accepts exactly the lists without a violation, and otherwise reports exactly the
first one. -/
theorem validate_reports_first_violation (config : Config) (definitions : List Definition)
    (checked : config.check = .ok ()) (fits : ∀ definition ∈ definitions, definition.Fits) :
    (validate config definitions = .ok () ↔
        (definitions.map Definition.name).Nodup ∧
          ∀ definition ∈ definitions, Valid config definition) ∧
      ∀ failure, validate config definitions = .error failure ↔
        FirstViolation config definitions failure := by
  have accepted := Config.accepted_of_check checked
  refine ⟨?_, fun failure => ?_⟩
  · rw [validate_eq_ok_iff_fault, fault_eq_none_iff accepted fits]
  · rw [validate_eq_error_iff_fault, fault_eq_some_iff accepted fits]

def crowdedDefinitions : List Definition :=
  [{ name := "Access", kind := .flags, sizeIndex := 4, entries := [⟨"Read", 1, ""⟩, ⟨"Write", 2, ""⟩] },
    { name := "Level", kind := .value, sizeIndex := 4,
      entries := [⟨"min", 0, ""⟩, ⟨"High", 300, ""⟩, ⟨"Top", 400, ""⟩] },
    { name := "Empty", kind := .value, sizeIndex := 4, entries := [] }]

theorem first_violation_of_crowded_definitions :
    ({} : Config).check = .ok () ∧ (∀ definition ∈ crowdedDefinitions, definition.Fits) ∧
      FirstViolation {} crowdedDefinitions
        (.violation (.outOfRange "Level" "High" 300 "uint8")) := by
  have checked : ({} : Config).check = .ok () := rfl
  have fits : ∀ definition ∈ crowdedDefinitions, definition.Fits := by
    simp [crowdedDefinitions, Definition.Fits, Integer.Fits, Integer.least, Integer.greatest]
  have reports := (validate_reports_first_violation {} crowdedDefinitions checked fits).2
  exact ⟨checked, fits, (reports _).1 rfl⟩

end EnumHeader.Validation
