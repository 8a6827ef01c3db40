import EnumHeader.Model
import EnumHeader.Proofs.Outcome
import EnumHeader.Validation

/-!
# Definitions without their descriptions

Validation and the derivation of models look at names, values and defaults only. A definition that
loses its descriptions fails as before, and what is derived from it loses them too.
-/

namespace EnumHeader

set_option autoImplicit false

def Entry.undescribed (entry : Entry) : Entry :=
  { entry with description := "" }

def Definition.undescribed (definition : Definition) : Definition :=
  { definition with entries := definition.entries.map Entry.undescribed, description := "" }

def Model.undescribed (model : Model) : Model :=
  { model with definition := model.definition.undescribed }

namespace Definition

variable (definition : Definition)

@[simp]
theorem entry_names_undescribed : definition.undescribed.entryNames = definition.entryNames := by
  simp [entryNames, undescribed, Entry.undescribed, Function.comp_def]

@[simp]
theorem values_undescribed : definition.undescribed.values = definition.values := by
  simp [values, undescribed, Entry.undescribed, Function.comp_def]

@[simp]
theorem index_of_undescribed (name : String) :
    definition.undescribed.indexOf? name = definition.indexOf? name := by
  unfold indexOf? undescribed
  rw [List.findIdx?_map]
  rfl

@[simp]
theorem resolve_default_undescribed (config : Config) :
    definition.undescribed.resolveDefault config = definition.resolveDefault config := by
  have style : definition.undescribed.effectiveStyle config = definition.effectiveStyle config :=
    rfl
  unfold resolveDefault
  simp only [index_of_undescribed, values_undescribed, style]
  rfl

end Definition

namespace Validation

variable (config : Config) (definition : Definition)

theorem first_entry_undescribed (isFault : Entry → Bool) (cause : Entry → Violation)
    (faults : ∀ entry : Entry, isFault entry.undescribed = isFault entry)
    (causes : ∀ entry : Entry, cause entry.undescribed = cause entry) :
    firstEntry definition.undescribed isFault cause = firstEntry definition isFault cause := by
  simp [firstEntry, Definition.undescribed, List.find?_map, Function.comp_def, faults, causes]

theorem first_repeated_value_undescribed (seen entries : List Entry) :
    firstRepeatedValue (seen.map Entry.undescribed) (entries.map Entry.undescribed) =
      (firstRepeatedValue seen entries).map (Prod.map Entry.undescribed Entry.undescribed) := by
  induction entries generalizing seen with
  | nil => rfl
  | cons entry rest ih =>
      have sought : (seen.map Entry.undescribed).find? (·.value = entry.undescribed.value) =
          (seen.find? (·.value = entry.value)).map Entry.undescribed := by
        rw [List.find?_map]
        rfl
      rw [List.map_cons, firstRepeatedValue, firstRepeatedValue, sought]
      cases seen.find? (·.value = entry.value) with
      | some first => rfl
      | none =>
          have later := ih (seen ++ [entry])
          rwa [List.map_append] at later

theorem rule_undescribed {rule : Rule} (member : rule ∈ rules) :
    rule config definition.undescribed = rule config definition := by
  simp only [rules, List.mem_cons, List.not_mem_nil, or_false] at member
  have flags {inner : Rule} (same : inner config definition.undescribed = inner config definition) :
      onFlags inner config definition.undescribed = onFlags inner config definition := by
    unfold onFlags
    rw [same]
    rfl
  have first (isFault : Entry → Bool) (cause : Entry → Violation)
      (faults : ∀ entry : Entry, isFault entry.undescribed = isFault entry)
      (causes : ∀ entry : Entry, cause entry.undescribed = cause entry) :=
    first_entry_undescribed definition isFault cause faults causes
  -- in the order in which the rules are checked
  rcases member with rfl | rfl | rfl | rfl | rfl | rfl | rfl | rfl | rfl | rfl
  · unfold distinctEntryNames
    rw [Definition.entry_names_undescribed]
    rfl
  · simp [someEntry, Definition.undescribed]
  · exact flags (first _ _ (fun _ => rfl) fun _ => rfl)
  · apply flags
    have repeated := first_repeated_value_undescribed [] definition.entries
    simp only [List.map_nil] at repeated
    simp only [Definition.undescribed, repeated, Option.map_map]
    rfl
  · exact flags rfl
  · rfl
  · change representableValues config definition.undescribed = _
    unfold representableValues
    cases registered : config.sizeTypes[definition.sizeIndex]? with
    | none => simp [Definition.undescribed, registered]
    | some sizeType =>
        have index : definition.undescribed.sizeIndex = definition.sizeIndex := rfl
        simp only [index, registered]
        exact first _ _ (fun _ => rfl) fun _ => rfl
  · exact first _ _ (fun _ => rfl) fun _ => rfl
  · apply flags
    split
    next => exact first _ _ (fun _ => rfl) fun _ => rfl
    next => rfl
  · unfold existingDefault
    rw [Definition.entry_names_undescribed]
    rfl

theorem definition_fault_undescribed :
    definitionFault config definition.undescribed = definitionFault config definition := by
  unfold definitionFault
  have each : ∀ rule ∈ rules, rule config definition.undescribed = rule config definition :=
    fun rule member => rule_undescribed config definition member
  -- by induction on the rules, of which it only counts that they agree one by one
  generalize rules = remaining at each
  induction remaining with
  | nil => rfl
  | cons rule rest ih =>
      rw [List.findSome?_cons, List.findSome?_cons, each rule (by simp),
        ih fun other member => each other (List.mem_cons_of_mem rule member)]

theorem validate_undescribed (definitions : List Definition) :
    validate config (definitions.map Definition.undescribed) = validate config definitions := by
  have names : (definitions.map Definition.undescribed).map Definition.name =
      definitions.map Definition.name := by
    rw [List.map_map]
    rfl
  have faults : (definitions.map Definition.undescribed).findSome? (definitionFault config) =
      definitions.findSome? (definitionFault config) := by
    rw [List.findSome?_map]
    exact congrArg (definitions.findSome? ·)
      (funext fun definition => definition_fault_undescribed config definition)
  unfold validate fault
  rw [names, faults]

end Validation

namespace Model

variable (config : Config)

theorem build_undescribed (definition : Definition) :
    build config definition.undescribed = (build config definition).map undescribed := by
  unfold build
  rw [Definition.resolve_default_undescribed, Definition.values_undescribed]
  cases registered : config.sizeTypes[definition.sizeIndex]? with
  | none =>
      simp only [show definition.undescribed.sizeIndex = definition.sizeIndex from rfl, registered]
      rfl
  | some sizeType =>
      simp only [show definition.undescribed.sizeIndex = definition.sizeIndex from rfl, registered]
      cases definition.resolveDefault config <;> rfl

theorem build_all_undescribed (definitions : List Definition) :
    buildAll config (definitions.map Definition.undescribed) =
      (buildAll config definitions).map (List.map undescribed) := by
  unfold buildAll
  induction definitions with
  | nil => rfl
  | cons definition rest ih =>
      rw [List.map_cons, List.mapM_cons, List.mapM_cons, ih, build_undescribed]
      cases build config definition with
      | error failure => rfl
      | ok model => cases rest.mapM (build config) <;> rfl

section Names

variable (model : Model)

theorem name_entry_at (index : Nat) :
    (model.undescribed.entryAt index).name = (model.entryAt index).name := by
  unfold entryAt undescribed Definition.undescribed
  rw [List.getElem?_map]
  cases model.definition.entries[index]? <;> rfl

theorem value_entry_at (index : Nat) :
    (model.undescribed.entryAt index).value = (model.entryAt index).value := by
  unfold entryAt undescribed Definition.undescribed
  rw [List.getElem?_map]
  cases model.definition.entries[index]? <;> rfl

theorem canonical_entries_undescribed :
    model.undescribed.canonicalEntries = model.canonicalEntries.map Entry.undescribed := by
  unfold canonicalEntries undescribed Definition.undescribed
  rw [List.map_filterMap]
  simp only [List.find?_map]
  rfl

end Names

end Model

end EnumHeader
