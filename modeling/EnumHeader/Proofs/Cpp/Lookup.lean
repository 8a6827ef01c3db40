import EnumHeader.Proofs.Cpp.Reading.Lookup
import EnumHeader.Proofs.Cpp.Reading.Run
import EnumHeader.Proofs.Cpp.Reading.Search

/-!
# What lookups and searches give

The result of a lookup for the value that is held, and of a search for a name, in any scope in which
the constants have the values of their entries. The forms for a single entry give the same as the
forms for many.
-/

namespace EnumHeader.Cpp

set_option autoImplicit false

open Reading

section Held

variable {lookup : Lookup} {scope : Scope} {held : Int} {entries : List Entry}
  {textOf : Entry → String} (arms : lookup.arms = entries.map fun entry => ⟨entry.name, textOf entry⟩)
  (holds : scope.named ["value_"] = some (.integer held))
  (labels : ∀ entry ∈ entries,
    scope.evaluate (labelExpression lookup.kind entry.name) = some (.integer entry.value))
include arms holds labels

/-- What a lookup gives for the held value: the text of the entry with that value, or an empty
view. -/
theorem result_of_lookup :
    result scope lookup.statements =
      some (((entries.find? fun entry => entry.value = held).map
        fun entry => .view (textOf entry).toList).getD (.view [])) := by
  have empty : scope.evaluate (.empty ["std", viewName lookup.stringType]) = some (.view []) := by
    cases lookup.stringType <;> rfl
  have texts (text : String) : scope.evaluate (textExpression lookup.stringType text) =
      some (.view text.toList) := evaluate_text scope lookup.stringType text
  unfold Lookup.statements
  split
  next arm single =>
    obtain ⟨entry, rfl, rfl⟩ : ∃ entry, entries = [entry] ∧ ⟨entry.name, textOf entry⟩ = arm := by
      rw [arms] at single
      exact List.map_eq_singleton_iff.1 single
    have compared := evaluate_binary .equal (evaluate_name holds)
      (labels entry (by simp))
    have tested : (Statement.test
        (.binary .equal (.name ["value_"]) (lookup.case ⟨entry.name, textOf entry⟩).1)
        (.give (lookup.case ⟨entry.name, textOf entry⟩).2)).run scope =
          some (if held = entry.value then some (.view (textOf entry).toList) else none) := by
      rw [Lookup.case, run_test compared, run_give (texts _)]
      by_cases same : held = entry.value <;> simp [same]
    rw [result_of_search tested empty]
    by_cases same : entry.value = held
    · simp [same]
    · have other : ¬ held = entry.value := fun equal => same equal.symm
      simp [same, other]
  next =>
    let arm (entry : Entry) : Expression × Expression :=
      (labelExpression lookup.kind entry.name, textExpression lookup.stringType (textOf entry))
    have cases : lookup.arms.map lookup.case = entries.map arm := by
      simp [arms, Lookup.case, arm]
    have values : ∀ entry ∈ entries,
        scope.evaluate (arm entry).2 = some (.view (textOf entry).toList) :=
      fun entry _ => texts (textOf entry)
    have found : (Statement.select (.name ["value_"]) (entries.map arm)).run scope = _ :=
      run_select (evaluate_name holds) labels values
    rw [cases, result_of_search found empty]
    simp

end Held

section Sought

variable {table : NameTable} {scope : Scope} {text : List Char}
  (sought : scope.named ["s"] = some (.view text)) (owner : scope.owner = table.owner)
include sought owner

theorem run_of_row_test (name : List Char) (value : Int) :
    table.rowTest.run (scope.bind "entry" (.row name value)) =
      some (if name = text then some (.wrapper value) else none) := by
  have row : (scope.bind "entry" (.row name value)).named ["entry"] = some (.row name value) :=
    named_of_bind _ (by decide)
  have field : (scope.bind "entry" (.row name value)).evaluate (.field ["entry"] "name") =
      some (.view name) := by
    simp [Scope.evaluate, row]
  have argument : (scope.bind "entry" (.row name value)).evaluate (.name ["s"]) =
      some (.view text) := by
    apply evaluate_name
    rw [named_past_bind _ (by decide), sought]
  have storedOwner : (scope.bind "entry" (.row name value)).owner = table.owner := owner
  have wrapped : (scope.bind "entry" (.row name value)).evaluate
      (.construct [table.owner] (.field ["entry"] "value")) = some (.wrapper value) := by
    simp [Scope.evaluate, row, storedOwner]
  have compared := evaluate_binary .equal field argument
  rw [NameTable.rowTest, run_test compared, run_give wrapped]
  by_cases same : name = text <;> simp [same]

theorem run_of_only_test {name : String} {value : Int}
    (constant : scope.constant name = some value) :
    (table.onlyTest name).run scope =
      some (if name.toList = text then some (.wrapper value) else none) := by
  have literal := evaluate_text scope table.stringType name
  have wrapped : scope.evaluate (.construct [table.owner] (.name ["Value", name])) =
      some (.wrapper value) := by
    simp [Scope.evaluate, Scope.named, constant, owner]
  have compared := evaluate_binary .equal (evaluate_name sought) literal
  rw [NameTable.onlyTest, run_test compared, run_give wrapped]
  by_cases same : name.toList = text
  · simp [same]
  · have other : ¬ text = name.toList := fun equal => same equal.symm
    simp [same, other]

/-- What a search gives for a text: the value of the entry of that name, or nothing. -/
theorem result_of_name_search {entries : List Entry} (names : table.names = entries.map Entry.name)
    (rows : scope.table "names" =
      some (entries.map fun entry => .row entry.name.toList entry.value))
    (constants : ∀ entry ∈ entries, scope.constant entry.name = some entry.value) :
    result scope table.statements =
      some (((entries.find? fun entry => entry.name.toList = text).map
        fun entry => .wrapper entry.value).getD .nothing) := by
  have nothing : scope.evaluate (.name ["std", "nullopt"]) = some .nothing := rfl
  unfold NameTable.statements
  split
  next name only =>
    obtain ⟨entry, rfl, rfl⟩ : ∃ entry, entries = [entry] ∧ entry.name = name := by
      rw [names] at only
      obtain ⟨entry, one, named⟩ := List.map_eq_singleton_iff.1 only
      exact ⟨entry, one, named⟩
    have found := run_of_only_test sought owner (constants entry (by simp))
    rw [result_of_search found nothing]
    by_cases same : entry.name.toList = text <;> simp [same]
  next =>
    have runs : ∀ entry ∈ entries,
        table.rowTest.run (scope.bind "entry" (.row entry.name.toList entry.value)) =
          some (if decide (entry.name.toList = text) then some (.wrapper entry.value) else none) := by
      intro entry _
      simpa using run_of_row_test sought owner entry.name.toList entry.value
    rw [result_of_search (run_each _ rows runs) nothing]

end Sought

end EnumHeader.Cpp
