import EnumHeader.Cpp.Wrapper
import EnumHeader.Proofs.Cpp.Returnless.Steps
import EnumHeader.Proofs.Cpp.Returnless.Text
import EnumHeader.Proofs.Cpp.Uncommented
import EnumHeader.Proofs.Model.Canonical

/-!
# Carriage returns in generated structs

The comments of a wrapper struct are its only lines that can have a carriage return. Its other lines
are put together from literals, names and numerals.
-/

namespace EnumHeader

set_option autoImplicit false

def Definition.descriptions (definition : Definition) : List String :=
  definition.description :: definition.entries.map Entry.description

namespace Cpp

/-- The texts that a model gives to generated code, apart from its descriptions. -/
structure ReturnlessModel (model : Model) : Prop where
  own : Returnless model.name
  stored : Returnless model.sizeType.typeName
  entries : ∀ entry ∈ model.definition.entries, Returnless entry.name

theorem ReturnlessModel.entry_at {model : Model} (free : ReturnlessModel model) (index : Nat) :
    Returnless (model.entryAt index).name :=
  Model.name_at_of_entries (.literal rfl) free.entries index

theorem ReturnlessModel.entry_names {model : Model} (free : ReturnlessModel model) :
    ∀ name ∈ model.definition.entryNames, Returnless name :=
  List.forall_mem_map.2 free.entries

def MembersReturnless (members : List Member) : Prop :=
  ∀ member ∈ members, StepsReturnless member.steps

section Members

variable {config : Config} {model : Model} {members : List Member}

theorem members_returnless_nil : MembersReturnless [] :=
  nofun

theorem members_returnless_cons {member : Member} :
    MembersReturnless (member :: members) ↔
      StepsReturnless member.steps ∧ MembersReturnless members :=
  List.forall_mem_cons

theorem members_returnless_append {first second : List Member} :
    MembersReturnless (first ++ second) ↔ MembersReturnless first ∧ MembersReturnless second :=
  List.forall_mem_append

theorem table_returnless {elementType name : String} {rows : List String}
    (typed : Returnless elementType) (named : Returnless name)
    (each : ∀ row ∈ rows, Returnless row) :
    StepsReturnless (Member.table elementType name rows).steps := by
  have number := returnless_number
  simp only [Member.steps, steps_returnless_cons, steps_returnless_nil, Step.IsReturnless,
    returnless_append, typed, named, number, and_true, true_and]
  exact ⟨⟨⟨⟨.literal rfl, .literal rfl⟩, .literal rfl⟩, .literal rfl⟩, each, .literal rfl⟩

section Shared

theorem enumerators_returnless_iff (free : ReturnlessModel model) :
    StepsReturnless
        ((model.definition.entries.map (Wrapper.enumerator model)).flatMap Enumerator.steps) ↔
      ∀ entry ∈ model.definition.entries, ¬Text.BreaksLine entry.description.toList := by
  have value := returnless_of_value model.kind
  have equals : Returnless " = " := .literal rfl
  have comma : Returnless "," := .literal rfl
  rw [steps_returnless_flat_map, List.forall_mem_map]
  apply forall₂_congr
  intro entry declared
  have named := free.entries entry declared
  simp only [Wrapper.enumerator, Enumerator.steps, steps_returnless_cons, steps_returnless_nil,
    Step.IsReturnless, returnless_append, named, value, equals, comma, returnless_comments,
    and_true]

/-- The comments above the constants are all that can have a carriage return. -/
theorem declarations_returnless_iff (free : ReturnlessModel model) :
    MembersReturnless (Wrapper.declarations model) ↔
      ∀ entry ∈ model.definition.entries, ¬Text.BreaksLine entry.description.toList := by
  have constants : MembersReturnless (model.definition.entryNames.map Member.constant) := by
    intro member inside
    obtain ⟨name, declared, rfl⟩ := List.mem_map.1 inside
    have named := free.entry_names name declared
    simp only [Member.steps, steps_returnless_cons, steps_returnless_nil, Step.IsReturnless,
      returnless_append, named, and_true]
    exact ⟨⟨.literal rfl, .literal rfl⟩, .literal rfl⟩
  have stored : Returnless
      ("using " ++ "underlying_type" ++ " = " ++ model.sizeType.typeName ++ ";") := by
    simp only [returnless_append, free.stored, and_true]
    exact ⟨⟨⟨.literal rfl, .literal rfl⟩, .literal rfl⟩, .literal rfl⟩
  have header : Returnless ("enum class " ++ "Value" ++ " : " ++ "underlying_type") := by
    simp only [returnless_append]
    exact ⟨⟨⟨.literal rfl, .literal rfl⟩, .literal rfl⟩, .literal rfl⟩
  have closing : Returnless "\x7d;" := .literal rfl
  simp only [Wrapper.declarations, members_returnless_append, members_returnless_cons,
    members_returnless_nil, constants, Member.steps, steps_returnless_append, steps_returnless_cons,
    steps_returnless_nil, Step.IsReturnless, stored, header, closing,
    enumerators_returnless_iff free, and_true, true_and]

theorem returnless_bool (value : Bool) : Returnless (Wrapper.boolText value) := by
  cases value <;> exact .literal rfl

theorem introspection_returnless (names : config.GivenNames) (free : ReturnlessModel model) :
    MembersReturnless (Wrapper.introspection config model) := by
  have marked := returnless_nodiscard names
  have number := returnless_number
  have truth := returnless_bool
  have named := free.entry_at
  have rows : ∀ row ∈ model.canonicalEntries.map Wrapper.tableRow, Returnless row := by
    intro row inside
    obtain ⟨entry, canonical, rfl⟩ := List.mem_map.1 inside
    have named := free.entries entry (Model.mem_of_canonical canonical)
    unfold Wrapper.tableRow
    simp only [returnless_append, named, and_true]
    exact ⟨.literal rfl, .literal rfl⟩
  have table : StepsReturnless (Member.table "Value" "values" _).steps :=
    table_returnless (.literal rfl) (.literal rfl) rows
  simp only [Wrapper.introspection, Wrapper.query, members_returnless_cons, members_returnless_nil,
    table]
  simp only [Member.steps, Method.signature, bodied_returnless, steps_returnless_cons,
    steps_returnless_nil, Step.IsReturnless, returnless_append, marked, number, truth, named,
    Model.least, Model.greatest, and_true, true_and]
  and_intros <;> exact .literal rfl

theorem guard_returnless (kind : Kind) (validity : Validity) :
    StepsReturnless (Guard.ofValidity kind validity).steps := by
  have value := returnless_of_value kind
  have mask := returnless_of_mask
  cases validity
  all_goals
    simp only [Guard.ofValidity, Guard.steps, steps_returnless_cons, steps_returnless_nil,
      Step.IsReturnless, returnless_append, value, mask, and_true]
    and_intros <;> exact .literal rfl

theorem validity_returnless (names : config.GivenNames) :
    MembersReturnless (Wrapper.validityMembers config model) := by
  have marked := returnless_nodiscard names
  have body : StepsReturnless (Wrapper.guard model).steps := guard_returnless _ _
  have parameter : Returnless (Wrapper.guard model).parameter := by
    unfold Guard.parameter
    split <;> exact .literal rfl
  simp only [Wrapper.validityMembers, Wrapper.staticMethod, members_returnless_cons,
    members_returnless_nil, Member.steps, Method.signature, bodied_returnless,
    steps_returnless_cons, steps_returnless_nil, Step.IsReturnless, returnless_append, marked, body,
    parameter, and_true, true_and]
  and_intros <;> exact .literal rfl

theorem returnless_view (stringType : StringType) : Returnless (viewType stringType) := by
  cases stringType <;> exact .literal rfl

theorem returnless_label (kind : Kind) {entry : String} (named : Returnless entry) :
    Returnless (caseLabel kind entry) := by
  unfold caseLabel
  cases kind with
  | value => exact returnless_append.2 ⟨.literal rfl, named⟩
  | flags => exact returnless_append.2 ⟨returnless_append.2 ⟨.literal rfl, named⟩, .literal rfl⟩

theorem result_returnless (lookup : Lookup) (arm : Arm) : (lookup.result arm).IsReturnless := by
  have quoted := returnless_quoted lookup.stringType arm.text
  simp only [Lookup.result, Step.IsReturnless, returnless_append, quoted, and_true]
  exact ⟨.literal rfl, .literal rfl⟩

theorem lookup_returnless (lookup : Lookup) (named : ∀ arm ∈ lookup.arms, Returnless arm.entry) :
    StepsReturnless lookup.steps := by
  have view := returnless_view lookup.stringType
  have shown := result_returnless lookup
  unfold Lookup.steps
  rw [steps_returnless_append]
  constructor
  · split
    next arm only =>
      have label := returnless_label lookup.kind (named arm (by simp [only]))
      simp only [steps_returnless_cons, steps_returnless_nil, shown]
      simp only [Step.IsReturnless, returnless_append, label, and_true, true_and]
      exact ⟨⟨.literal rfl, .literal rfl⟩, .literal rfl⟩
    next =>
      have cases : StepsReturnless (lookup.arms.flatMap lookup.caseSteps) := by
        rw [steps_returnless_flat_map]
        intro arm inside
        have label := returnless_label lookup.kind (named arm inside)
        simp only [Lookup.caseSteps, steps_returnless_cons, steps_returnless_nil, shown]
        simp only [Step.IsReturnless, returnless_append, label, and_true]
        exact ⟨.literal rfl, .literal rfl⟩
      simp only [steps_returnless_append, steps_returnless_cons, steps_returnless_nil,
        Step.IsReturnless, cases, and_true]
      exact ⟨.literal rfl, .literal rfl⟩
  · simp only [steps_returnless_cons, steps_returnless_nil, Step.IsReturnless, returnless_append,
      view, and_true]
    exact ⟨.literal rfl, .literal rfl⟩

theorem rows_returnless (table : NameTable) (named : ∀ name ∈ table.names, Returnless name) :
    ∀ row ∈ table.rows, Returnless row := by
  intro row inside
  obtain ⟨name, listed, rfl⟩ := List.mem_map.1 inside
  have quoted := returnless_quoted table.stringType name
  unfold NameTable.row
  simp only [returnless_append, quoted, named name listed, and_true]
  exact ⟨⟨.literal rfl, .literal rfl⟩, .literal rfl⟩

theorem search_returnless (table : NameTable) (own : Returnless table.owner)
    (named : ∀ name ∈ table.names, Returnless name) : StepsReturnless table.searchSteps := by
  have quoted := returnless_quoted table.stringType
  have last : Returnless "return std::nullopt;" := .literal rfl
  unfold NameTable.searchSteps
  split
  next name only =>
    have entry := named name (by simp [only])
    simp only [steps_returnless_append, steps_returnless_cons, steps_returnless_nil,
      Step.IsReturnless, returnless_append, quoted, own, entry, last, and_true]
    and_intros <;> exact .literal rfl
  next =>
    simp only [steps_returnless_append, steps_returnless_cons, steps_returnless_nil,
      Step.IsReturnless, returnless_append, own, last, and_true]
    and_intros <;> exact .literal rfl

theorem strings_returnless (names : config.GivenNames) (free : ReturnlessModel model) :
    MembersReturnless (Wrapper.stringMembers config model) := by
  have marked := returnless_nodiscard names
  have view := returnless_view config.stringType
  have shown (textOf : Entry → String) :
      StepsReturnless (Lookup.ofModel config.stringType model textOf).steps := by
    apply lookup_returnless
    intro arm inside
    obtain ⟨entry, canonical, rfl⟩ := List.mem_map.1 inside
    exact free.entries entry (Model.mem_of_canonical canonical)
  have sought : StepsReturnless (Wrapper.nameTable config model).searchSteps :=
    search_returnless _ free.own free.entry_names
  have table : StepsReturnless
      (Member.table "NameEntry" "names" (Wrapper.nameTable config model).rows).steps :=
    table_returnless (.literal rfl) (.literal rfl) (rows_returnless _ free.entry_names)
  have byName : MembersReturnless (Wrapper.nameMembers config model) := by
    simp only [Wrapper.nameMembers, Wrapper.nameLookup, Wrapper.reader, Wrapper.staticMethod,
      members_returnless_cons, members_returnless_nil, table]
    simp only [Member.steps, Method.signature, bodied_returnless, steps_returnless_cons,
      steps_returnless_nil, Step.IsReturnless, List.forall_mem_cons, List.not_mem_nil,
      false_implies, implies_true, returnless_append, marked, view, shown, sought, free.own,
      and_true, true_and]
    and_intros <;> exact .literal rfl
  have byDescription : MembersReturnless (Wrapper.descriptionMembers config model) := by
    simp only [Wrapper.descriptionMembers, Wrapper.descriptionLookup, Wrapper.reader,
      members_returnless_cons, members_returnless_nil, Member.steps, Method.signature,
      bodied_returnless, returnless_append, marked, view, shown, and_true, true_and]
    and_intros <;> exact .literal rfl
  unfold Wrapper.stringMembers
  cases config.stringTable with
  | none => exact members_returnless_nil
  | names => exact byName
  | namesAndDescriptions => exact members_returnless_append.2 ⟨byName, byDescription⟩

theorem equality_returnless {owner : String} (own : Returnless owner) :
    MembersReturnless (Wrapper.equality owner) := by
  simp only [Wrapper.equality, Wrapper.comparison, Wrapper.friendFunction,
    members_returnless_append, members_returnless_cons, members_returnless_nil, Member.steps,
    bodied_returnless, steps_returnless_cons, steps_returnless_nil, Step.IsReturnless,
    returnless_append, own, and_true]
  and_intros <;> exact .literal rfl

end Shared

section Value

theorem value_conversions_returnless (names : config.GivenNames) (free : ReturnlessModel model) :
    MembersReturnless (Wrapper.valueConversions config model) := by
  have marked := returnless_nodiscard names
  have asserted := returnless_assertion names
  simp only [Wrapper.valueConversions, Wrapper.fromInteger, Wrapper.staticMethod,
    members_returnless_cons, members_returnless_nil, Member.steps, Method.signature,
    bodied_returnless, steps_returnless_cons, steps_returnless_nil, Step.IsReturnless,
    returnless_append, marked, asserted, free.own, and_true, true_and]
  and_intros <;> exact .literal rfl

theorem value_access_returnless (names : config.GivenNames) :
    MembersReturnless (Wrapper.valueAccess config) := by
  have marked := returnless_nodiscard names
  simp only [Wrapper.valueAccess, Wrapper.reader, Wrapper.modifier, members_returnless_cons,
    members_returnless_nil, Member.steps, Method.signature, bodied_returnless,
    steps_returnless_cons, steps_returnless_nil, Step.IsReturnless, returnless_append, marked,
    and_true, true_and]
  and_intros <;> exact .literal rfl

end Value

section Flags

theorem returnless_cast {operand : String} :
    Returnless (Wrapper.cast operand) ↔ Returnless operand := by
  have opening : Returnless "static_cast<underlying_type>(" := .literal rfl
  have closing : Returnless ")" := .literal rfl
  unfold Wrapper.cast
  simp only [returnless_append, opening, closing, and_true, true_and]

theorem returnless_combined {op : String} (sign : Returnless op) :
    Returnless (Wrapper.combined op) := by
  unfold Wrapper.combined
  simp only [returnless_append, returnless_cast, sign, and_true]
  and_intros <;> exact .literal rfl

theorem flags_conversions_returnless (names : config.GivenNames) (free : ReturnlessModel model) :
    MembersReturnless (Wrapper.flagsConversions config model) := by
  have marked := returnless_nodiscard names
  simp only [Wrapper.flagsConversions, Wrapper.fromInteger, Wrapper.staticMethod,
    members_returnless_cons, members_returnless_nil, Member.steps, Method.signature,
    bodied_returnless, steps_returnless_cons, steps_returnless_nil, Step.IsReturnless,
    returnless_append, marked, free.own, and_true, true_and]
  and_intros <;> exact .literal rfl

theorem flags_access_returnless (names : config.GivenNames) :
    MembersReturnless (Wrapper.flagsAccess config ++ Wrapper.flagOperations config) := by
  have marked := returnless_nodiscard names
  simp only [Wrapper.flagsAccess, Wrapper.flagOperations, Wrapper.reader, Wrapper.modifier,
    members_returnless_append, members_returnless_cons, members_returnless_nil, Member.steps,
    Method.signature, bodied_returnless, steps_returnless_cons, steps_returnless_nil,
    Step.IsReturnless, returnless_append, returnless_cast, marked, and_true, true_and]
  and_intros <;> exact .literal rfl

theorem bit_operator_returnless {owner op : String} (own : Returnless owner)
    (sign : Returnless op) : MembersReturnless (Wrapper.bitOperator owner op) := by
  have both := returnless_combined sign
  simp only [Wrapper.bitOperator, Wrapper.friendFunction, Wrapper.assignment,
    members_returnless_cons, members_returnless_nil, Member.steps, bodied_returnless,
    steps_returnless_cons, steps_returnless_nil, Step.IsReturnless, returnless_append,
    returnless_cast, own, sign, both, and_true, true_and]
  and_intros <;> exact .literal rfl

theorem bit_operators_returnless {owner : String} (own : Returnless owner) :
    MembersReturnless (Wrapper.bitOperators owner) := by
  have complement : MembersReturnless (Wrapper.complement owner) := by
    simp only [Wrapper.complement, Wrapper.friendFunction, members_returnless_cons,
      members_returnless_nil, Member.steps, bodied_returnless, steps_returnless_cons,
      steps_returnless_nil, Step.IsReturnless, returnless_append, returnless_cast, own, and_true,
      true_and]
    and_intros <;> exact .literal rfl
  simp only [Wrapper.bitOperators, List.flatMap_cons, List.flatMap_nil, members_returnless_append,
    members_returnless_nil, and_true]
  exact ⟨complement, bit_operator_returnless own (.literal rfl),
    bit_operator_returnless own (.literal rfl), bit_operator_returnless own (.literal rfl)⟩

end Flags

end Members

section Structs

variable {config : Config} {model : Model} (names : config.GivenNames)
  (free : ReturnlessModel model)
include names free

theorem value_enum_returnless (declared : MembersReturnless (Wrapper.declarations model)) :
    MembersReturnless (Wrapper.ofValueEnum config model).members := by
  have marked := returnless_nodiscard names
  have constant : Returnless (Wrapper.defaultConstant model) := by
    unfold Wrapper.defaultConstant Model.defaultEntry?
    split
    · exact returnless_append.2 ⟨.literal rfl, free.entry_at _⟩
    · exact returnless_append.2 ⟨.literal rfl, free.entry_at _⟩
  simp only [Wrapper.ofValueEnum, members_returnless_append, members_returnless_cons,
    members_returnless_nil, declared, value_conversions_returnless names free,
    value_access_returnless names, introspection_returnless names free, validity_returnless names,
    strings_returnless names free, equality_returnless free.own, and_true]
  simp only [Wrapper.constructorOf, Wrapper.query, Member.steps, Method.signature,
    bodied_returnless, steps_returnless_cons, steps_returnless_nil, Step.IsReturnless,
    returnless_append, marked, constant, free.own, and_true, true_and]
  and_intros <;> exact .literal rfl

theorem flags_enum_returnless (declared : MembersReturnless (Wrapper.declarations model)) :
    MembersReturnless (Wrapper.ofFlagsEnum config model).members := by
  have marked := returnless_nodiscard names
  have mask := returnless_of_mask
  have access := members_returnless_append.1 (flags_access_returnless names)
  simp only [Wrapper.ofFlagsEnum, members_returnless_append, members_returnless_cons,
    members_returnless_nil, declared, flags_conversions_returnless names free, access,
    introspection_returnless names free, validity_returnless names, strings_returnless names free,
    equality_returnless free.own, bit_operators_returnless free.own, and_true]
  simp only [Wrapper.constructorOf, Wrapper.query, Wrapper.defaultMask, Wrapper.allFlags,
    Member.steps, Method.signature, bodied_returnless, steps_returnless_cons, steps_returnless_nil,
    Step.IsReturnless, returnless_append, returnless_cast, marked, mask, free.own, and_true,
    true_and]
  and_intros <;> exact .literal rfl

theorem wrapper_returnless_iff :
    StepsReturnless (wrapper config model).steps ↔
      ∀ text ∈ model.definition.descriptions, ¬Text.BreaksLine text.toList := by
  have opening : Returnless ("struct " ++ (wrapper config model).name) := by
    rw [name_of_wrapper]
    exact returnless_append.2 ⟨.literal rfl, free.own⟩
  have closing : Returnless "\x7d;" := .literal rfl
  have members : StepsReturnless ((wrapper config model).members.flatMap Member.steps) ↔
      MembersReturnless (Wrapper.declarations model) := by
    rw [steps_returnless_flat_map]
    constructor
    · intro all
      obtain ⟨later, split, -⟩ := wrapper_members config model
      rw [split] at all
      exact (members_returnless_append.1 all).1
    · intro declared
      unfold wrapper
      cases model.kind with
      | value => exact value_enum_returnless names free declared
      | flags => exact flags_enum_returnless names free declared
  unfold Struct.steps Definition.descriptions
  simp only [steps_returnless_append, steps_returnless_cons, steps_returnless_nil,
    Step.IsReturnless, opening, closing, members, declarations_returnless_iff free,
    comment_of_wrapper, returnless_comments, List.forall_mem_cons, List.forall_mem_map, and_true]

theorem enum_info_returnless : StepsReturnless (enumInfo config model) := by
  have owner := returnless_qualified names free.own
  have number := returnless_number
  have truth := returnless_bool
  simp only [enumInfo, infoConstant, steps_returnless_cons, steps_returnless_nil,
    Step.IsReturnless, returnless_append, owner, number, truth, and_true, true_and]
  and_intros <;> exact .literal rfl

end Structs

end Cpp

end EnumHeader
