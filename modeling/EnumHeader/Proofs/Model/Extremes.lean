import EnumHeader.Proofs.Model.Default

/-!
# Extreme entries

A model can only be derived from a definition with entries, because a default is looked for first.
The entries that it names as its extremes are the first ones of the smallest and of the largest
value, whether or not the definition is valid.
-/

namespace EnumHeader

set_option autoImplicit false

structure Definition.IsFirstWith (definition : Definition) (value : Int) (position : Nat) : Prop where
  valued : ∃ entry, definition.entries[position]? = some entry ∧ entry.value = value
  first : ∀ earlier < position, ∀ entry, definition.entries[earlier]? = some entry →
    entry.value ≠ value

namespace Definition

variable {definition : Definition}

theorem IsFirstWith.declared {value : Int} {position : Nat}
    (first : definition.IsFirstWith value position) : position < definition.entries.length := by
  obtain ⟨entry, found, -⟩ := first.valued
  exact (List.getElem?_eq_some_iff.1 found).1

theorem IsFirstWith.mem {value : Int} {position : Nat}
    (first : definition.IsFirstWith value position) : value ∈ definition.values := by
  obtain ⟨entry, found, valued⟩ := first.valued
  exact List.mem_map.2 ⟨entry, List.mem_of_getElem? found, valued⟩

theorem IsFirstWith.unique {value : Int} {position other : Nat}
    (first : definition.IsFirstWith value position) (same : definition.IsFirstWith value other) :
    position = other := by
  obtain ⟨entry, found, valued⟩ := first.valued
  obtain ⟨entry', found', valued'⟩ := same.valued
  rcases Nat.lt_trichotomy position other with before | equal | after
  · exact absurd valued (same.first position before entry found)
  · exact equal
  · exact absurd valued' (first.first other after entry' found')

theorem find_idx_eq_some_iff {value : Int} {position : Nat} :
    definition.values.findIdx? (· = value) = some position ↔
      definition.IsFirstWith value position := by
  rw [values, List.findIdx?_map, List.findIdx?_eq_some_iff_getElem]
  constructor
  · rintro ⟨inside, valued, before⟩
    refine ⟨⟨_, List.getElem?_eq_getElem inside, by simpa using valued⟩, ?_⟩
    intro earlier below entry there
    obtain ⟨within, rfl⟩ := List.getElem?_eq_some_iff.1 there
    simpa using before earlier below
  · rintro first
    obtain ⟨entry, found, valued⟩ := first.valued
    obtain ⟨inside, rfl⟩ := List.getElem?_eq_some_iff.1 found
    refine ⟨inside, by simpa using valued, ?_⟩
    intro earlier below
    simpa using first.first earlier below _ (List.getElem?_eq_getElem (below.trans inside))

theorem first_with_idx_of {value : Int} (member : value ∈ definition.values) :
    definition.IsFirstWith value (definition.values.idxOf value) := by
  apply find_idx_eq_some_iff.1
  have inside : definition.values.idxOf value < definition.values.length :=
    List.idxOf_lt_length_iff.2 member
  refine List.findIdx?_eq_some_iff_getElem.2 ⟨inside, by simp, ?_⟩
  intro earlier before
  simpa using List.not_of_lt_findIdx before

/-- Where no value is repeated, every entry is the first one with its value. -/
theorem first_with_of_distinct (distinct : definition.values.Nodup) {index : Nat} {entry : Entry}
    (found : definition.entries[index]? = some entry) :
    definition.IsFirstWith entry.value index := by
  obtain ⟨inside, rfl⟩ := List.getElem?_eq_some_iff.1 found
  refine ⟨⟨_, found, rfl⟩, ?_⟩
  intro earlier before other there
  obtain ⟨within, rfl⟩ := List.getElem?_eq_some_iff.1 there
  have different := List.pairwise_iff_getElem.1 distinct earlier index (by simpa [values] using within)
    (by simpa [values] using inside) before
  simpa [values] using different

/-- A default is refused where there is no entry, also where one is named. -/
theorem values_nonempty_of_resolve {config : Config} {default : DefaultValue}
    (resolved : definition.resolveDefault config = .ok default) : definition.values ≠ [] := by
  intro none
  have entries : definition.entries = [] := by simpa [values] using none
  unfold resolveDefault at resolved
  cases named : definition.defaultName with
  | some name => simp [named, indexOf?, entries] at resolved
  | none =>
      cases kind : definition.kind <;>
        simp [named, kind, none, valueDefault, flagsDefault, bind, Except.bind] at resolved

end Definition

namespace Model

variable {model : Model}

structure NamesExtremes (model : Model) (min max : Int) : Prop where
  least : IsLeast {value | value ∈ model.definition.values} min
  greatest : IsGreatest {value | value ∈ model.definition.values} max
  minEntry : model.definition.IsFirstWith min model.metadata.minEntry
  maxEntry : model.definition.IsFirstWith max model.metadata.maxEntry

theorem value_entry_at_of_first {value : Int} {position : Nat}
    (first : model.definition.IsFirstWith value position) :
    (model.entryAt position).value = value := by
  obtain ⟨entry, found, valued⟩ := first.valued
  rw [entryAt, found, Option.getD_some, valued]

theorem names_extremes (nonempty : model.definition.values ≠ [])
    (derived : ∃ default, model.metadata =
      Metadata.ofValues model.definition.kind model.sizeType default model.definition.values) :
    ∃ min max, model.NamesExtremes min max := by
  obtain ⟨default, derived⟩ := derived
  obtain ⟨min, max, least, greatest, isLeast, isGreatest⟩ := ValueSet.exists_extremes nonempty
  have first : model.metadata.minEntry = model.definition.values.idxOf min := by
    rw [derived]
    cases model.definition.kind <;> simp [Metadata.ofValues, minIndex, least]
  have last : model.metadata.maxEntry = model.definition.values.idxOf max := by
    rw [derived]
    cases model.definition.kind <;> simp [Metadata.ofValues, maxIndex, greatest]
  exact ⟨min, max, isLeast, isGreatest, first ▸ Definition.first_with_idx_of isLeast.1,
    last ▸ Definition.first_with_idx_of isGreatest.1⟩

/-- Nothing is asked of the definition but that it has a model. -/
theorem names_extremes_of_build {config : Config} {definition : Definition}
    (built : Model.build config definition = .ok model) :
    ∃ min max, model.NamesExtremes min max := by
  obtain ⟨rfl, -, derived⟩ := build_eq_ok built
  exact names_extremes (Definition.values_nonempty_of_resolve (default_of_build built).2) derived

end Model

end EnumHeader
