import EnumHeader.Proofs.Cpp.Lookup
import EnumHeader.Proofs.Cpp.Reading.Wrapper
import EnumHeader.Proofs.Cpp.Uncommented

/-!
# The generated string conversions

The functions `to_string` and `from_string` of a wrapper, read from the text of the struct with the
tables that they search, convert between the names and the values of the declared entries and give
nothing for anything else. The names have to be identifiers, because a constant is written by
its name. Descriptions are not treated here.
-/

namespace EnumHeader.Cpp

set_option autoImplicit false

open Reading

namespace Reading.Printed

variable (printed : Printed)

def toText (value : Int) : Option Datum :=
  printed.call "to_string" "" (.integer value) .nothing

def fromText (stringType : StringType) (text : List Char) : Option Datum :=
  printed.call "from_string" (viewType stringType) .nothing (.view text)

structure Faithful (stringType : StringType) (definition : Definition) : Prop where
  from_name : ∀ entry ∈ definition.entries,
    printed.fromText stringType entry.name.toList = some (.wrapper entry.value)
  from_other : ∀ text, (∀ entry ∈ definition.entries, entry.name.toList ≠ text) →
    printed.fromText stringType text = some .nothing
  /-- A value is shown by the first entry that has it. -/
  to_first_name : ∀ entry ∈ definition.entries, ∃ first,
    definition.entries.find? (·.value = entry.value) = some first ∧
      printed.toText entry.value = some (.view first.name.toList)
  to_nothing : ∀ value, (∀ entry ∈ definition.entries, entry.value ≠ value) →
    printed.toText value = some (.view [])
  distinct_labels : ∃ values : List Int,
    printed.labels "to_string" "" = some (values.map Datum.integer) ∧ values.Nodup
  round_trip : ∀ entry ∈ definition.entries, ∃ text,
    printed.toText entry.value = some (.view text) ∧
      printed.fromText stringType text = some (.wrapper entry.value)
  values_table : ∃ values : List Int,
    printed.table "values" = some (values.map Datum.integer) ∧ values.Pairwise (· < ·) ∧
      printed.tableSize "values" = some values.length ∧
      printed.call "count" "" .nothing .nothing = some (.integer values.length)
  names_table : ∃ rows : List Datum,
    printed.table "names" = some rows ∧ printed.tableSize "names" = some rows.length

end Reading.Printed

open Reading.Printed (ofModel)

section Model

variable {config : Config} {model : Model} (validated : model.Validated config)
include validated

theorem evaluate_label (kind : Kind) (held : Datum) {entry : Entry}
    (denotes : Printed.Denotes model.definition (ofModel config model).constant)
    (member : entry ∈ model.definition.entries) :
    ((ofModel config model).scope held).evaluate (labelExpression kind entry.name) =
      some (.integer entry.value) := by
  have named : ((ofModel config model).scope held).named ["Value", entry.name] =
      some (.integer entry.value) := by
    have same : ((ofModel config model).scope held).constant entry.name = some entry.value :=
      denotes entry member
    simp [Scope.named, same]
  cases kind with
  | value => exact evaluate_name named
  | flags =>
      exact evaluate_cast (evaluate_name named)
        (SizeType.wrap_of_represents validated.width_bounds.1 (validated.represents member))

variable (names : ∀ entry ∈ model.definition.entries, IsName entry.name)
include names

theorem constants_denote : Printed.Denotes model.definition (ofModel config model).constant :=
  Printed.denotes_of_words validated fun entry member => (names entry member).word

variable (tabled : config.stringTable ≠ .none)
include tabled

omit validated in
theorem read_to_string :
    (ofModel config model).function "to_string" "" =
      some ("", (Wrapper.nameLookup config model).statements) := by
  apply Printed.function_of_lines _ (function_to_string model tabled)
  apply read_lookup
  intro arm member
  rcases List.mem_map.1 member with ⟨entry, canonical, rfl⟩
  exact (names entry (Model.mem_of_canonical canonical)).word

theorem to_text_eq (value : Int) :
    (ofModel config model).toText value =
      some (((model.definition.entries.find? (·.value = value)).map
        fun entry => .view entry.name.toList).getD (.view [])) := by
  have called := Printed.call_of_function (ofModel config model) (read_to_string names tabled)
    (.integer value) .nothing
  have held : ((ofModel config model).scope (.integer value)).named ["value_"] =
      some (.integer value) := rfl
  have labels : ∀ entry ∈ model.canonicalEntries,
      ((ofModel config model).scope (.integer value)).evaluate
        (labelExpression (Wrapper.nameLookup config model).kind entry.name) =
          some (.integer entry.value) :=
    fun entry canonical =>
      evaluate_label validated _ _ (constants_denote validated names)
        (Model.mem_of_canonical canonical)
  have arms : (Wrapper.nameLookup config model).arms =
      model.canonicalEntries.map fun entry => ⟨entry.name, entry.name⟩ := rfl
  have shown := result_of_lookup arms held labels
  rw [Model.find_canonical validated] at shown
  exact called.trans shown

theorem from_text_eq (owner : IsName model.name) (text : List Char) :
    (ofModel config model).fromText config.stringType text =
      some (((model.definition.entries.find? fun entry => entry.name.toList = text).map
        fun entry => .wrapper entry.value).getD .nothing) := by
  have denotes := constants_denote validated names
  have words : ∀ name ∈ (Wrapper.nameTable config model).names, IsWord name :=
    List.forall_mem_map.2 fun entry declared => (names entry declared).word
  have reads : readLines ((Wrapper.nameTable config model).searchSteps.flatMap Step.written) = _ :=
    read_search_steps owner words
  have found := Printed.function_of_lines (ofModel config model) (function_from_string model tabled)
    reads
  have called := Printed.call_of_function (ofModel config model) found .nothing (.view text)
  let scope := ((ofModel config model).scope .nothing).bind "s" (.view text)
  have sought : scope.named ["s"] = some (.view text) := named_of_bind _ (by decide)
  have rows : scope.table "names" =
      some (model.definition.entries.map fun entry => .row entry.name.toList entry.value) :=
    Printed.table_of_names rfl denotes tabled fun entry member => (names entry member).word
  have constants : ∀ entry ∈ model.definition.entries,
      scope.constant entry.name = some entry.value := denotes
  have searched : result scope (Wrapper.nameTable config model).statements = _ :=
    result_of_name_search sought rfl rfl rows constants
  rw [Printed.scopeOf, view_parameter] at called
  exact called.trans searched

omit names tabled in
theorem canonical_values_ascending :
    (model.canonicalEntries.map Entry.value).Pairwise (· < ·) := by
  rw [Model.values_of_canonical_entries validated, validated.unique_values]
  exact ValueSet.ascending_of_list _

theorem labels_of_to_string :
    ∃ values : List Int,
      (ofModel config model).labels "to_string" "" = some (values.map Datum.integer) ∧
        values.Nodup := by
  rw [Printed.labels_of_function (ofModel config model) (read_to_string names tabled)]
  unfold Lookup.statements
  split
  -- The test of a single entry has no label.
  next => exact ⟨[], rfl, List.nodup_nil⟩
  next =>
    refine ⟨model.canonicalEntries.map Entry.value, ?_, (canonical_values_ascending validated).nodup⟩
    have cases : ([Statement.select (.name ["value_"])
          ((Wrapper.nameLookup config model).arms.map (Wrapper.nameLookup config model).case),
        .give (.empty ["std", viewName (Wrapper.nameLookup config model).stringType])].flatMap
          Statement.labels) =
        model.canonicalEntries.map fun entry => labelExpression model.kind entry.name := by
      simp [Statement.labels, Wrapper.nameLookup, Lookup.ofModel, Lookup.case]
    rw [cases, List.map_map]
    apply read_rows
    intro entry canonical
    exact evaluate_label validated _ _ (constants_denote validated names)
      (Model.mem_of_canonical canonical)

theorem faithful_of_validated (owner : IsName model.name) :
    (ofModel config model).Faithful config.stringType model.definition where
  from_name entry member := by
    rw [from_text_eq validated names tabled owner]
    have named : model.definition.entries.find?
        (fun other => other.name.toList = entry.name.toList) = some entry := by
      simpa [String.toList_inj] using validated.find_by_name member
    simp [named]
  from_other text absent := by
    rw [from_text_eq validated names tabled owner]
    have none : model.definition.entries.find? (fun entry => entry.name.toList = text) = none :=
      List.find?_eq_none.2 fun entry member => by simpa using absent entry member
    simp [none]
  to_first_name entry member := by
    obtain ⟨first, -, -, found⟩ := Model.canonical_of_mem validated member
    refine ⟨first, found, ?_⟩
    rw [to_text_eq validated names tabled, found]
    rfl
  to_nothing value absent := by
    have none : model.definition.entries.find? (·.value = value) = none :=
      List.find?_eq_none.2 fun entry member => by simpa using absent entry member
    rw [to_text_eq validated names tabled, none]
    rfl
  distinct_labels := labels_of_to_string validated names tabled
  round_trip entry member := by
    -- The name that is shown may be that of another entry, but of one with the same value.
    obtain ⟨first, canonical, valued, found⟩ := Model.canonical_of_mem validated member
    refine ⟨first.name.toList, ?_, ?_⟩
    · rw [to_text_eq validated names tabled, found]
      rfl
    · have named : model.definition.entries.find?
          (fun other => other.name.toList = first.name.toList) = some first := by
        simpa [String.toList_inj] using
          validated.find_by_name (Model.mem_of_canonical canonical)
      rw [from_text_eq validated names tabled owner, named, ← valued]
      rfl
  values_table := by
    refine ⟨model.canonicalEntries.map Entry.value, ?_, canonical_values_ascending validated, ?_, ?_⟩
    · rw [Printed.table_of_values rfl (constants_denote validated names), List.map_map]
      rfl
    · rw [List.length_map]
      exact Printed.size_of_table (ofModel config model) (table_values config model)
    · rw [Printed.call_count rfl, Metadata.uniqueCount, Model.values_of_canonical_entries validated]
  names_table := by
    have words : ∀ entry ∈ model.definition.entries, IsWord entry.name :=
      fun entry member => (names entry member).word
    refine ⟨_, Printed.table_of_names rfl (constants_denote validated names) tabled words, ?_⟩
    have size := Printed.size_of_table (ofModel config model) (table_names model tabled)
    have rows : (Wrapper.nameTable config model).rows.length = model.definition.entries.length := by
      simp [NameTable.rows, Wrapper.nameTable, NameTable.ofModel, Definition.entryNames]
    simpa [rows] using size

end Model

/-- Under an accepted configuration with a string table, the text of the wrapper of a validated
definition whose names are identifiers has conversions that are faithful to it. -/
theorem conversions_are_faithful (config : Config) (definitions : List Definition)
    (definition : Definition) (model : Model) (depth : Nat) (checked : config.check = .ok ())
    (passed : Validation.validate config definitions = .ok ()) (member : definition ∈ definitions)
    (built : Model.build config definition = .ok model) (tabled : config.stringTable ≠ .none)
    (owner : Text.isIdentifier definition.name = true)
    (names : ∀ entry ∈ definition.entries, Text.isIdentifier entry.name = true) :
    ∃ printed : Reading.Printed, printed.Shows config model depth ∧
      printed.Faithful config.stringType definition := by
  obtain ⟨rfl, validated⟩ := Model.validated_of_build checked passed member built
  have shows := Printed.shows_of_given_names (Config.given_names_of_check checked) model depth
  have faithful := faithful_of_validated validated
    (fun entry inside => is_name_of_identifier (names entry inside)) tabled
    (is_name_of_identifier owner)
  exact ⟨ofModel config model, shows, faithful⟩

def aliasedValues : Definition :=
  { name := "Level", kind := .value, sizeIndex := 0,
    entries := [⟨"High", 9, ""⟩, ⟨"Off", -3, ""⟩, ⟨"Top", 9, ""⟩] }

theorem conversions_of_aliased_values :
    ({} : Config).check = .ok () ∧ Validation.validate {} [aliasedValues] = .ok () ∧
      ∃ model, Model.build {} aliasedValues = .ok model ∧
        ∃ printed : Reading.Printed, printed.Shows {} model 2 ∧
          printed.Faithful .narrow aliasedValues := by
  refine ⟨rfl, rfl, _, rfl, ?_⟩
  exact conversions_are_faithful {} [aliasedValues] aliasedValues _ 2 rfl rfl (by simp) rfl
    (by decide) (by decide) (by decide)

end EnumHeader.Cpp
