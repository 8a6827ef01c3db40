import EnumHeader.Proofs.Model.Validated
import EnumHeader.Proofs.ValueSet

/-!
# Canonical entries

Each distinct value of an enum is shown by the first entry that has it. In a validated model there is
exactly one such entry for each distinct value, in the order of the values.
-/

namespace EnumHeader.Model

set_option autoImplicit false

variable {config : Config} {model : Model}

theorem mem_of_canonical {entry : Entry} (canonical : entry ∈ model.canonicalEntries) :
    entry ∈ model.definition.entries := by
  obtain ⟨value, -, found⟩ := List.mem_filterMap.1 canonical
  exact List.mem_of_find?_eq_some found

/-- A position past the end stands for an entry with an empty name. -/
theorem name_at_of_entries {motive : String → Prop} (empty : motive "")
    (each : ∀ entry ∈ model.definition.entries, motive entry.name) (index : Nat) :
    motive (model.entryAt index).name := by
  unfold entryAt
  cases found : model.definition.entries[index]? with
  | none => exact empty
  | some entry => exact each entry (List.mem_of_getElem? found)

theorem mem_canonical_entries (validated : model.Validated config) (entry : Entry) :
    entry ∈ model.canonicalEntries ↔
      model.definition.entries.find? (·.value = entry.value) = some entry := by
  simp only [canonicalEntries, List.mem_filterMap, validated.unique_values, ValueSet.mem_of_list_iff,
    Definition.values, List.mem_map]
  constructor
  · rintro ⟨value, -, found⟩
    have same : entry.value = value := by simpa using List.find?_some found
    rw [same]
    exact found
  · intro found
    exact ⟨entry.value, ⟨entry, List.mem_of_find?_eq_some found, rfl⟩, found⟩

theorem canonical_of_mem (validated : model.Validated config) {entry : Entry}
    (member : entry ∈ model.definition.entries) :
    ∃ first ∈ model.canonicalEntries, first.value = entry.value ∧
      model.definition.entries.find? (·.value = entry.value) = some first := by
  cases found : model.definition.entries.find? (·.value = entry.value) with
  | none => simpa using List.find?_eq_none.1 found entry member
  | some first =>
      have same : first.value = entry.value := by simpa using List.find?_some found
      exact ⟨first, (mem_canonical_entries validated first).2 (same ▸ found), same, rfl⟩

theorem values_of_found (entries : List Entry) (values : List Int)
    (declared : ∀ value ∈ values, ∃ entry ∈ entries, entry.value = value) :
    (values.filterMap fun value => entries.find? (·.value = value)).map Entry.value = values := by
  induction values with
  | nil => rfl
  | cons value values ih =>
      have rest := ih fun other member => declared other (List.mem_cons_of_mem value member)
      obtain ⟨entry, member, same⟩ := declared value (by simp)
      cases found : entries.find? (·.value = value) with
      | none => exact absurd same (by simpa using List.find?_eq_none.1 found entry member)
      | some first =>
          have valued : first.value = value := by simpa using List.find?_some found
          simp [found, valued, rest]

/-- The canonical entries stand in the order of the distinct values, one for each. -/
theorem values_of_canonical (derived : ∃ default, model.metadata =
    Metadata.ofValues model.definition.kind model.sizeType default model.definition.values) :
    model.canonicalEntries.map Entry.value = model.metadata.uniqueValues := by
  apply values_of_found
  intro value member
  rw [unique_values_of_derived derived, ValueSet.mem_of_list_iff] at member
  simpa [Definition.values] using member

theorem values_of_canonical_entries (validated : model.Validated config) :
    model.canonicalEntries.map Entry.value = model.metadata.uniqueValues :=
  values_of_canonical validated.derived

theorem find_canonical (validated : model.Validated config) (value : Int) :
    model.canonicalEntries.find? (·.value = value) =
      model.definition.entries.find? (·.value = value) := by
  cases found : model.definition.entries.find? (·.value = value) with
  | none =>
      have absent := List.find?_eq_none.1 found
      exact List.find?_eq_none.2 fun entry canonical =>
        absent entry (mem_of_canonical canonical)
  | some first =>
      have valued : first.value = value := by simpa using List.find?_some found
      have canonical : first ∈ model.canonicalEntries :=
        (mem_canonical_entries validated first).2 (valued.symm ▸ found)
      cases search : model.canonicalEntries.find? (·.value = value) with
      | none => exact absurd valued (by simpa using List.find?_eq_none.1 search first canonical)
      | some other =>
          have otherValued : other.value = value := by simpa using List.find?_some search
          have otherFirst :=
            (mem_canonical_entries validated other).1 (List.mem_of_find?_eq_some search)
          rw [otherValued, found] at otherFirst
          exact otherFirst.symm

end EnumHeader.Model
