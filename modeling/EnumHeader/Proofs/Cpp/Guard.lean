import EnumHeader.Proofs.Cpp.Reading.Guard
import EnumHeader.Proofs.Cpp.Reading.Run
import EnumHeader.Proofs.Cpp.Reading.Wrapper
import EnumHeader.Proofs.Model.Membership

/-!
# The generated validity check

The function `is_valid` of a wrapper, read from the text of the struct and evaluated for a value of
the storage type, answers what the validity check of the model answers. This covers the literals of
the bounds and the table of values, which are generated apart from the check. The rows of the table
stand for what the constants stand for that they name. Values that the storage type does not have are
left out, because the function cannot be called for them.
-/

namespace EnumHeader.Cpp

set_option autoImplicit false

open Reading

namespace Guard

section Answers

variable {scope : Scope} {value : Int} (argument : scope.named ["v"] = some (.integer value))
include argument

theorem evaluate_compare (operator : Operator) {literal : Literal} {bound : Int}
    (evaluates : scope.evaluate (literalExpression literal) = some (.integer bound)) :
    scope.evaluate (compare operator literal) =
      operator.apply scope.storage (.integer value) (.integer bound) :=
  evaluate_binary operator (evaluate_name argument) evaluates

theorem answer_of_between {min max : Literal} {least most : Int}
    (lower : scope.evaluate (literalExpression min) = some (.integer least))
    (upper : scope.evaluate (literalExpression max) = some (.integer most)) :
    result scope (Guard.between min max).statements =
      some (.boolean (least ≤ value && value ≤ most)) := by
  have above : scope.evaluate (compare .greaterEqual min) = some (.boolean (least ≤ value)) :=
    evaluate_compare argument .greaterEqual lower
  have below : scope.evaluate (compare .lessEqual max) = some (.boolean (value ≤ most)) :=
    evaluate_compare argument .lessEqual upper
  rw [statements, result_of_give, evaluate_binary .and above below]
  rfl

theorem run_search_test {listed : Int} (stored : scope.storage.wrap listed = listed) :
    searchTest.run (scope.bind "candidate" (.integer listed)) =
      some (if listed = value then some (.boolean true) else none) := by
  have candidate : (scope.bind "candidate" (.integer listed)).evaluate (.name ["candidate"]) =
      some (.integer listed) := evaluate_name (named_of_bind _ (by decide))
  have sought : (scope.bind "candidate" (.integer listed)).evaluate (.name ["v"]) =
      some (.integer value) := by
    apply evaluate_name
    rw [named_past_bind _ (by decide), argument]
  have compared := evaluate_binary .equal (evaluate_cast candidate stored) sought
  rw [searchTest, run_test compared, run_give rfl]
  by_cases same : listed = value <;> simp [same]

theorem answer_of_listed {values : List Int} (ascending : values.Pairwise (· < ·))
    (table : scope.table "values" = some (values.map Datum.integer))
    (stored : ∀ listed ∈ values, scope.storage.wrap listed = listed) :
    result scope Guard.listed.statements = some (.boolean (ValueSet.search values value)) := by
  have runs : ∀ listed ∈ values, searchTest.run (scope.bind "candidate" (.integer listed)) =
      some (if decide (listed = value) then some (.boolean true) else none) := by
    intro listed member
    simpa using run_search_test argument (stored listed member)
  have loop := run_each Datum.integer table runs
  rw [statements, result_of_search loop rfl, ValueSet.search_eq_contains ascending]
  cases search : values.find? fun listed => decide (listed = value) with
  | none =>
      have absent : value ∉ values := by
        intro member
        simpa using List.find?_eq_none.1 search value member
      simp [absent]
  | some listed =>
      have same : listed = value := by simpa using List.find?_some search
      have member : value ∈ values := same ▸ List.mem_of_find?_eq_some search
      simp [member]

theorem answer_of_within {mask : Literal} {bits : Nat} (positive : 1 ≤ scope.storage.bits)
    (unsigned : scope.storage.signed = false) (stored : scope.storage.Represents bits)
    (represents : scope.storage.Represents value)
    (evaluates : scope.evaluate (literalExpression mask) = some (.integer bits)) :
    result scope (Guard.within mask).statements =
      some (.boolean (value.toNat ||| bits == bits)) := by
  simp only [SizeType.Represents, unsigned, Bool.false_eq_true, if_false] at stored represents
  have residue : scope.storage.residue value = value.toNat := by
    rw [SizeType.residue, Int.emod_eq_of_lt represents.1 represents.2]
  have maskResidue : scope.storage.residue bits = bits := by
    rw [SizeType.residue, Int.emod_eq_of_lt stored.1 stored.2, Int.toNat_natCast]
  have small : value.toNat ||| bits < 2 ^ scope.storage.bits := by
    apply Nat.or_lt_two_pow <;> zify <;> omega
  have joined : scope.evaluate (compare .bitOr mask) =
      some (.integer (value.toNat ||| bits : Nat)) := by
    have kept : scope.storage.wrap ((value.toNat ||| bits : Nat) : Int) =
        (value.toNat ||| bits : Nat) := by
      apply SizeType.wrap_of_represents positive
      simp only [SizeType.Represents, unsigned, Bool.false_eq_true, if_false]
      exact ⟨by omega, by exact_mod_cast small⟩
    rw [evaluate_compare argument .bitOr evaluates]
    simp only [Operator.apply, residue, maskResidue, kept]
  rw [statements, result_of_give, evaluate_binary .equal joined evaluates]
  simp only [Operator.apply, Int.natCast_inj]
  rfl

theorem answer_of_compare (operator : Operator) {literal : Literal} {bound : Int}
    (evaluates : scope.evaluate (literalExpression literal) = some (.integer bound)) :
    result scope [.give (compare operator literal)] =
      operator.apply scope.storage (.integer value) (.integer bound) := by
  rw [result_of_give, evaluate_compare argument operator evaluates]

end Answers

section Model

variable {config : Config} {model : Model} (validated : model.Validated config) {scope : Scope}
  {value : Int} (storage : scope.storage = model.sizeType)
  (argument : scope.named ["v"] = some (.integer value))
include validated storage argument

theorem answer_of_values (kind : model.definition.kind = .value)
    (table : scope.table "values" = some (model.metadata.uniqueValues.map Datum.integer)) :
    result scope (Wrapper.guard model).statements =
      some (.boolean (model.metadata.validity.accepts value)) := by
  have represented : ∀ listed ∈ model.metadata.uniqueValues, scope.storage.Represents listed := by
    intro listed member
    rw [validated.unique_values, ValueSet.mem_of_list_iff] at member
    obtain ⟨entry, declared, rfl⟩ := List.mem_map.1 member
    exact storage ▸ validated.represents declared
  have positive : 1 ≤ scope.storage.bits := storage ▸ validated.width_bounds.1
  have narrow : scope.storage.bits ≤ 128 := storage ▸ validated.width_bounds.2
  have literal (listed : Int) (member : listed ∈ model.metadata.uniqueValues) :
      scope.evaluate (literalExpression (.ofInt listed Literal.underlying)) =
        some (.integer listed) :=
    evaluate_of_int positive (represented listed member) narrow
  have validity := validated.validity_of_value kind
  rw [← validated.unique_values] at validity
  rw [Wrapper.guard, Model.kind, kind, validity]
  cases head : model.metadata.uniqueValues.head? with
  | none =>
      have empty : model.metadata.uniqueValues = [] := List.head?_eq_none_iff.1 head
      rw [empty] at table ⊢
      exact answer_of_listed argument List.Pairwise.nil table (by simp)
  | some min =>
      obtain ⟨max, last⟩ : ∃ max, model.metadata.uniqueValues.getLast? = some max := by
        cases last : model.metadata.uniqueValues.getLast? with
        | none => simp [List.getLast?_eq_none_iff.1 last] at head
        | some max => exact ⟨max, rfl⟩
      have least := literal min (List.mem_of_head? head)
      have most := literal max (List.mem_of_getLast? last)
      simp only [Validity.ofValues, head, last]
      -- One case for each form of the check, in the order in which the forms are tried.
      split_ifs with single gaps lowest highest highest
      · exact answer_of_compare argument .equal least
      · exact answer_of_listed argument validated.ascending table fun listed member =>
          SizeType.wrap_of_represents positive (represented listed member)
      · rfl
      · exact answer_of_compare argument .lessEqual most
      · exact answer_of_compare argument .greaterEqual least
      · exact answer_of_between argument least most

omit storage argument in
theorem mask_represented (kind : model.definition.kind = .flags) :
    model.sizeType.Represents
      (ValueSet.usedBits (ValueSet.ofList model.definition.values) : Nat) := by
  have unsigned := validated.unsigned_of_flags kind
  have small : ValueSet.usedBits (ValueSet.ofList model.definition.values) <
      2 ^ model.sizeType.bits := by
    apply ValueSet.used_bits_lt
    intro value member
    rw [ValueSet.mem_of_list_iff] at member
    obtain ⟨entry, declared, rfl⟩ := List.mem_map.1 member
    have represented := validated.represents declared
    simp only [SizeType.Represents, unsigned, Bool.false_eq_true, if_false] at represented
    have pattern := Integer.pattern_of_nonneg represented.1 (validated.fits entry declared)
    zify
    omega
  simp only [SizeType.Represents, unsigned, Bool.false_eq_true, if_false]
  exact ⟨by omega, by exact_mod_cast small⟩

theorem answer_of_flags (kind : model.definition.kind = .flags)
    (represents : model.sizeType.Represents value) :
    result scope (Wrapper.guard model).statements =
      some (.boolean (model.metadata.validity.accepts value)) := by
  have unsigned := validated.unsigned_of_flags kind
  have positive : 1 ≤ scope.storage.bits := storage ▸ validated.width_bounds.1
  have stored := storage ▸ mask_represented validated kind
  have mask := evaluate_of_mask positive stored rfl
  have nonneg : 0 ≤ value := by
    simp only [SizeType.Represents, unsigned, Bool.false_eq_true, if_false] at represents
    exact represents.1
  rw [Wrapper.guard, Model.kind, kind, validated.validity_of_flags kind]
  generalize ValueSet.usedBits (ValueSet.ofList model.definition.values) = bits at stored mask
  unfold Validity.ofFlags
  split_ifs with full low
  · rfl
  · have same : (Validity.flagsLowMask bits).accepts value = decide (value ≤ bits) := by
      simp [Validity.accepts, nonneg]
    rw [same]
    exact answer_of_compare argument .lessEqual mask
  · have same : (Validity.flagsMask bits).accepts value = (value.toNat ||| bits == bits) := by
      simp [Validity.accepts, nonneg]
    rw [same]
    exact answer_of_within argument positive (storage ▸ unsigned) stored (storage ▸ represents) mask

end Model

end Guard

open Reading.Printed (ofModel)

theorem guard_words (kind : Kind) (validity : Validity) :
    ∀ literal ∈ (Guard.ofValidity kind validity).literals, HasWordType literal := by
  cases validity <;>
    simp [Guard.ofValidity, Guard.literals, word_type_of_value, word_type_of_mask]

/-- A guard that tests nothing answers the same whether its parameter has a name or not. -/
theorem result_in_scope_of_guard (guard : Guard) (scope : Scope) (argument : Datum) :
    result
        (match (readParameter (tokens guard.parameter)).2 with
          | some parameter => scope.bind parameter argument
          | none => scope)
        guard.statements =
      result (scope.bind "v" argument) guard.statements := by
  have unnamed : (readParameter (tokens "underlying_type")).2 = none := by decide
  have named : (readParameter (tokens "underlying_type v")).2 = some "v" := by decide
  cases guard with
  | always =>
      simp only [Guard.parameter, unnamed]
      rfl
  | equal | atMost | atLeast | between | listed | within => simp only [Guard.parameter, named]

namespace Reading.Printed

/-- The constants stand for the values of their entries, as long as their lines are no comments. -/
def GivesValues (printed : Printed) (definition : Definition) : Prop :=
  ∀ entry ∈ definition.entries, isCommentLine entry.name.toList = false →
    printed.constant entry.name = some entry.value

/-- The function `is_valid` gives that answer wherever the constants stand for the values of their
entries. -/
def Answers (printed : Printed) (definition : Definition) (value : Int) (answer : Bool) : Prop :=
  ∀ constant : String → Option Int, Denotes definition constant →
    ({ printed with constant } : Printed).call "is_valid" "underlying_type" .nothing
        (.integer value) =
      some (.boolean answer)

theorem Answers.call {printed : Printed} {definition : Definition} {value : Int} {answer : Bool}
    (answers : printed.Answers definition value answer) (values : printed.GivesValues definition)
    (code : ∀ entry ∈ definition.entries, isCommentLine entry.name.toList = false) :
    printed.call "is_valid" "underlying_type" .nothing (.integer value) = some (.boolean answer) :=
  answers printed.constant fun entry member => values entry member (code entry member)

theorem gives_values {config : Config} {model : Model} (validated : model.Validated config) :
    (ofModel config model).GivesValues model.definition :=
  fun _ => constant_of_entry validated

end Reading.Printed

/-- The body is read as it stands, also for values past the largest that an entry can have. -/
theorem answers_of_represented {config : Config} {model : Model} (validated : model.Validated config)
    {value : Int} (represents : model.sizeType.Represents value) :
    (ofModel config model).Answers model.definition value
      (model.metadata.validity.accepts value) := by
  intro constant denotes
  let printed : Printed := { ofModel config model with constant }
  let scope := (printed.scope .nothing).bind "v" (.integer value)
  have argument : scope.named ["v"] = some (.integer value) := named_of_bind _ (by decide)
  have answer : result scope (Wrapper.guard model).statements =
      some (.boolean (model.metadata.validity.accepts value)) := by
    cases kind : model.definition.kind with
    | value =>
        apply Guard.answer_of_values validated rfl argument kind
        have table : printed.table "values" = _ := Printed.table_of_values rfl denotes
        rw [← Model.values_of_canonical_entries validated, List.map_map]
        exact table
    | flags => exact Guard.answer_of_flags validated rfl argument kind represents
  have reads := read_guard (guard_words model.kind model.metadata.validity)
  have found := Printed.function_of_lines printed (function_is_valid config model) reads
  have called := Printed.call_of_function printed found .nothing (.integer value)
  exact called.trans ((result_in_scope_of_guard _ _ _).trans answer)

/-- Under an accepted configuration, the text of the wrapper of a validated definition has a function
`is_valid` that answers, for every value of the storage type, what the validity check of the model
answers. -/
theorem is_valid_agrees_with_validity (config : Config) (definitions : List Definition)
    (definition : Definition) (model : Model) (depth : Nat) (value : Int)
    (checked : config.check = .ok ()) (passed : Validation.validate config definitions = .ok ())
    (member : definition ∈ definitions) (built : Model.build config definition = .ok model)
    (inside : model.sizeType.Holds value) :
    ∃ printed : Reading.Printed, printed.Shows config model depth ∧ printed.GivesValues definition ∧
      printed.Answers definition value (model.metadata.validity.accepts value) := by
  obtain ⟨rfl, validated⟩ := Model.validated_of_build checked passed member built
  have shows := Printed.shows_of_given_names (Config.given_names_of_check checked) model depth
  have fits := model.sizeType.fits_of_holds inside
  have represents := (SizeType.holds_iff_represents validated.width fits).1 inside
  exact ⟨ofModel config model, shows, Printed.gives_values validated,
    answers_of_represented validated represents⟩

def scatteredValues : Definition :=
  { name := "Level", kind := .value, sizeIndex := 0,
    entries := [⟨"High", 9, ""⟩, ⟨"Off", -3, ""⟩, ⟨"Low", 7, ""⟩] }

theorem is_valid_of_scattered_values :
    ({} : Config).check = .ok () ∧ Validation.validate {} [scatteredValues] = .ok () ∧
      ∃ model, Model.build {} scatteredValues = .ok model ∧ model.sizeType.Holds 7 ∧
        ∃ printed : Reading.Printed, printed.Shows {} model 2 ∧
          printed.call "is_valid" "underlying_type" .nothing (.integer 7) =
            some (.boolean true) := by
  have built : Model.build {} scatteredValues = .ok _ := rfl
  have accepted := (Model.accepts_of_scan built rfl 7).2 (by decide)
  refine ⟨rfl, rfl, _, built, by decide, ?_⟩
  obtain ⟨printed, shows, values, answers⟩ := is_valid_agrees_with_validity {}
    [scatteredValues] scatteredValues _ 2 7 rfl rfl (by simp) built (by decide)
  rw [accepted] at answers
  exact ⟨printed, shows, answers.call values (by decide)⟩

end EnumHeader.Cpp
