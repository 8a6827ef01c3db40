import EnumHeader.Cpp.Wrapper
import EnumHeader.Proofs.Cpp.Naming
import EnumHeader.Proofs.Cpp.Reading.Readable

/-!
# Wrapper structs read back

Every member of a wrapper struct is read back from its lines. Names of entries and of the definition
may be any text, and the macros of the configuration are names, which is all that is needed of them.
-/

namespace EnumHeader.Cpp

set_option autoImplicit false

open Reading

instance (line : String) : Decidable (Plain line) :=
  decidable_of_iff (line ≠ "\x7b" ∧ opensTable line = false ∧ line ∉ closers)
    ⟨fun ⟨opener, table, closer⟩ => ⟨opener, table, closer⟩,
      fun plain => ⟨plain.opener, plain.table, plain.closer⟩⟩

section Bodies

theorem first_return : First 'r' "return " :=
  rfl

theorem plain_return (value : String) : Plain ("return " ++ value ++ ";") :=
  plain_of_first ((first_return.append value).append ";") (by decide)

theorem plain_mixed_right (op owner : String) : Plain ("return a " ++ op ++ " " ++ owner ++ "(b);") :=
  plain_of_first (((((show First 'r' "return a " from rfl).append op).append _).append _).append _)
    (by decide)

theorem plain_mixed_left (op owner : String) : Plain ("return " ++ owner ++ "(a) " ++ op ++ " b;") :=
  plain_of_first ((((first_return.append owner).append _).append _).append _) (by decide)

theorem plain_unchecked (owner value : String) :
    Plain ("return " ++ owner ++ "::from_underlying_unsafe(" ++ value ++ ");") :=
  plain_of_first ((((first_return.append owner).append _).append _).append _) (by decide)

theorem nested_statement {line : String} (plain : Plain line) :
    Nested ([Step.line line].flatMap Step.written) :=
  nested_line plain

theorem nested_statements {first second : List Step}
    (left : Nested (first.flatMap Step.written)) (right : Nested (second.flatMap Step.written)) :
    Nested ((first ++ second).flatMap Step.written) := by
  rw [List.flatMap_append]
  exact left.append right

theorem nested_bodied {head : String} (plain : Plain head) {body : List Step}
    (nested : Nested (body.flatMap Step.written)) :
    Nested ((bodied head body).flatMap Step.written) := by
  simpa [bodied, Step.written] using nested.block plain

theorem guard_nested (guard : Guard) : Nested (guard.steps.flatMap Step.written) := by
  cases guard with
  | always => exact nested_statement (by decide)
  | equal value => exact nested_statement (plain_of_first
      (((show First 'r' "return v == " from rfl).append _).append ";") (by decide))
  | atMost max => exact nested_statement (plain_of_first
      (((show First 'r' "return v <= " from rfl).append _).append ";") (by decide))
  | atLeast min => exact nested_statement (plain_of_first
      (((show First 'r' "return v >= " from rfl).append _).append ";") (by decide))
  | between min max => exact nested_statement (plain_of_first
      (((((show First 'r' "return v >= " from rfl).append _).append _).append _).append ";")
      (by decide))
  | within mask => exact nested_statement (plain_of_first
      (((((show First 'r' "return (v | " from rfl).append _).append _).append _).append ";")
      (by decide))
  | listed =>
      have found := nested_bodied
        (by decide : Plain "if (static_cast<underlying_type>(candidate) == v)")
        (nested_statement (by decide : Plain "return true;"))
      have loop := nested_bodied (by decide : Plain "for (const Value candidate : values)") found
      have steps := nested_statements loop (nested_statement (by decide : Plain "return false;"))
      exact steps

theorem lookup_nested (lookup : Lookup) : Nested (lookup.steps.flatMap Step.written) := by
  have shown (arm : Arm) : Nested ([lookup.result arm].flatMap Step.written) :=
    nested_statement (plain_return _)
  have last : Nested ([Step.line ("return " ++ viewType lookup.stringType ++ "();")].flatMap
      Step.written) :=
    nested_statement (plain_of_first ((first_return.append _).append "();") (by decide))
  have label (arm : Arm) : Plain ("case " ++ caseLabel lookup.kind arm.entry ++ ":") :=
    plain_of_first (((show First 'c' "case " from rfl).append _).append ":") (by decide)
  have test (arm : Arm) : Plain ("if (value_ == " ++ caseLabel lookup.kind arm.entry ++ ")") :=
    plain_of_first (((show First 'i' "if (value_ == " from rfl).append _).append ")") (by decide)
  have arms (all : List Arm) : Nested ((all.flatMap lookup.caseSteps).flatMap Step.written) := by
    induction all with
    | nil => exact nested_nil
    | cons arm rest ih =>
        have each : Nested ((lookup.caseSteps arm).flatMap Step.written) :=
          (nested_line (label arm)).append (shown arm)
        rw [List.flatMap_cons]
        exact nested_statements each ih
  unfold Lookup.steps
  apply nested_statements _ last
  split
  next arm _ =>
    have single := nested_bodied (test arm) (shown arm)
    exact single
  next =>
    have several := nested_bodied (by decide : Plain "switch (value_)") (arms lookup.arms)
    exact several

theorem search_nested (table : NameTable) : Nested (table.searchSteps.flatMap Step.written) := by
  have last : Nested ([Step.line "return std::nullopt;"].flatMap Step.written) :=
    nested_statement (by decide)
  unfold NameTable.searchSteps
  apply nested_statements _ last
  split
  next name _ =>
    have test : Plain ("if (s == " ++ stringLiteral table.stringType name ++ ")") :=
      plain_of_first (((show First 'i' "if (s == " from rfl).append _).append ")") (by decide)
    have found : Plain ("return " ++ table.owner ++ "(Value::" ++ name ++ ");") :=
      plain_of_first ((((first_return.append _).append _).append _).append ");") (by decide)
    have single := nested_bodied test (nested_statement found)
    exact single
  next =>
    have found : Plain ("return " ++ table.owner ++ "(entry.value);") :=
      plain_of_first ((first_return.append _).append "(entry.value);") (by decide)
    have test := nested_bodied (by decide : Plain "if (entry.name == s)") (nested_statement found)
    have loop := nested_bodied (by decide : Plain "for (const NameEntry& entry : names)") test
    exact loop

end Bodies

section Leads

variable {config : Config} (names : config.GivenNames)
include names

theorem single_nodiscard : ' ' ∉ config.nodiscard.toList := by
  have parts := Text.parts_of_upper (Text.parts_of_identifier names.runtime)
  intro inside
  simp only [Config.nodiscard, Config.macroPrefix, String.toList_append, String.toList_ofList,
    List.mem_append] at inside
  rcases inside with upper | ending
  · exact absurd (parts ' ' upper) (by decide)
  · exact absurd ending (by decide)

omit names in
theorem nodiscard_declares_nothing : config.nodiscard ∉ declaringWords := by
  have short : ∀ word ∈ declaringWords, word.toList.length < "_NODISCARD".toList.length := by
    decide
  intro inside
  have length := short _ inside
  simp only [Config.nodiscard, String.toList_append, List.length_append] at length
  omega

theorem lead_of_nodiscard {lead : String} (rest : List Char)
    (starts : lead.toList = config.nodiscard.toList ++ ' ' :: rest) : IsLead lead := by
  refine ⟨config.nodiscard, rest, starts, single_nodiscard names, nodiscard_declares_nothing, ?_⟩
  intro same
  have first := first_word_append (single_nodiscard names) rest
  rw [← starts, same] at first
  have length := congrArg List.length first
  have short : (firstWord conversionLead).length < "_NODISCARD".toList.length := by decide
  simp only [Config.nodiscard, String.toList_append, List.length_append] at length
  omega

theorem lead_of_static (resultType : String) :
    IsLead (config.nodiscard ++ " static constexpr " ++ resultType) :=
  lead_of_nodiscard names ("static constexpr ".toList ++ resultType.toList) (by simp)

theorem lead_of_reader (resultType : String) :
    IsLead (config.nodiscard ++ " constexpr " ++ resultType) :=
  lead_of_nodiscard names ("constexpr ".toList ++ resultType.toList) (by simp)

omit names in
theorem lead_of_modifier : IsLead "constexpr void" :=
  ⟨"constexpr", "void".toList, by decide, by decide, by decide, by decide⟩

end Leads

/-- The names and parameters that are given to functions of a struct can be told apart. -/
structure Told (name parameters : String) : Prop where
  name : ' ' ∉ name.toList ∧ '(' ∉ name.toList
  parameters : '(' ∉ parameters.toList ∧ ')' ∉ parameters.toList

instance (name parameters : String) : Decidable (Told name parameters) :=
  decidable_of_iff ((' ' ∉ name.toList ∧ '(' ∉ name.toList) ∧
      '(' ∉ parameters.toList ∧ ')' ∉ parameters.toList)
    ⟨fun ⟨name, parameters⟩ => ⟨name, parameters⟩, fun told => ⟨told.name, told.parameters⟩⟩

section Functions

variable {config : Config} (names : config.GivenNames) {name parameters : String}

theorem readable_modifier (told : Told name parameters) {statement : String}
    (plain : Plain statement) : Readable (Wrapper.modifier name parameters statement) :=
  readable_method ⟨lead_of_modifier, told.name, told.parameters, .inl rfl, nested_statement plain⟩

include names

theorem readable_static (resultType : String) (told : Told name parameters) {body : List Step}
    (nested : Nested (body.flatMap Step.written)) :
    Readable (Wrapper.staticMethod config resultType name parameters body) :=
  readable_method ⟨lead_of_static names resultType, told.name, told.parameters, .inl rfl, nested⟩

theorem readable_query (resultType : String) (told : Told name "") (result : String) :
    Readable (Wrapper.query config resultType name result) :=
  readable_static names resultType told (nested_statement (plain_return result))

theorem readable_reader (resultType : String) (told : Told name parameters) {body : List Step}
    (nested : Nested (body.flatMap Step.written)) :
    Readable (Wrapper.reader config resultType name parameters body) :=
  readable_method ⟨lead_of_reader names resultType, told.name, told.parameters, .inr rfl, nested⟩

end Functions

def AllReadable (members : List Member) : Prop :=
  ∀ member ∈ members, Readable member

theorem all_readable_nil : AllReadable [] :=
  nofun

theorem all_readable_cons {member : Member} {members : List Member} :
    AllReadable (member :: members) ↔ Readable member ∧ AllReadable members :=
  List.forall_mem_cons

theorem all_readable_append {first second : List Member} :
    AllReadable (first ++ second) ↔ AllReadable first ∧ AllReadable second :=
  List.forall_mem_append

section Blocks

variable (config : Config) (model : Model)

theorem declarations_readable : AllReadable (Wrapper.declarations model) := by
  have stored := readable_alias (by decide : ' ' ∉ "underlying_type".toList) model.sizeType.typeName
  have comments : ∀ enumerator ∈ model.definition.entries.map (Wrapper.enumerator model),
      ∀ line ∈ enumerator.comment, IsComment line :=
    List.forall_mem_map.2 fun entry _ => comment_lines_are_comments entry.description
  have enumeration := readable_enumeration (by decide : ' ' ∉ "Value".toList) "underlying_type"
    comments
  have constants : AllReadable (model.definition.entryNames.map Member.constant) :=
    List.forall_mem_map.2 fun name _ => readable_short name
  unfold Wrapper.declarations
  simp only [all_readable_append, all_readable_cons, all_readable_nil, and_true]
  exact ⟨⟨stored, readable_gap, enumeration, readable_gap⟩, constants⟩

theorem constructor_readable (parameters initial : String) :
    Readable (Wrapper.constructorOf model parameters initial) := by
  have ending : Last '}' ") \x7b\x7d" := rfl
  have starts : ("constexpr " ++ model.name ++ "(" ++ parameters ++ ") noexcept : value_(" ++
      initial ++ ") \x7b\x7d").toList = "constexpr".toList ++ ' ' :: (model.name.toList ++
        "(".toList ++ parameters.toList ++ ") noexcept : value_(".toList ++ initial.toList ++
          ") \x7b\x7d".toList) := by
    simp
  exact readable_constructor starts (ending.append _)

theorem friend_readable (signature : String) {statement : String} (plain : Plain statement) :
    Readable (Wrapper.friendFunction signature statement) := by
  have starts : ("friend constexpr " ++ signature ++ " noexcept").toList =
      "friend".toList ++ ' ' :: ("constexpr ".toList ++ signature.toList ++ " noexcept".toList) := by
    simp
  exact readable_friend starts (nested_statement plain)

theorem assignment_readable (owner op operand : String) {statement : String}
    (plain : Plain statement) :
    Readable (Wrapper.assignment owner op operand statement) := by
  have starts : ("friend constexpr " ++ owner ++ "& operator" ++ op ++ "=(" ++ owner ++ "& a, " ++
      operand ++ " b) noexcept").toList =
        "friend".toList ++ ' ' :: ("constexpr ".toList ++ owner.toList ++ "& operator".toList ++
          op.toList ++ "=(".toList ++ owner.toList ++ "& a, ".toList ++ operand.toList ++
            " b) noexcept".toList) := by
    simp
  exact readable_friend starts
    ((nested_line plain).append (nested_line (by decide : Plain "return a;")))

theorem comparison_readable (owner op : String) : AllReadable (Wrapper.comparison owner op) := by
  have both : Plain ("return a.value_ " ++ op ++ " b.value_;") :=
    plain_of_first (((show First 'r' "return a.value_ " from rfl).append op).append _) (by decide)
  unfold Wrapper.comparison
  simp only [all_readable_cons, all_readable_nil, and_true]
  exact ⟨friend_readable _ both, friend_readable _ (plain_mixed_right op owner),
    friend_readable _ (plain_mixed_left op owner)⟩

theorem equality_readable (owner : String) : AllReadable (Wrapper.equality owner) :=
  all_readable_append.2 ⟨comparison_readable owner "==", comparison_readable owner "!="⟩

variable {config} (names : config.GivenNames)
include names

theorem introspection_readable : AllReadable (Wrapper.introspection config model) := by
  have comma : Last ',' "," := rfl
  have rows : ∀ row ∈ model.canonicalEntries.map Wrapper.tableRow, Plain row :=
    List.forall_mem_map.2 fun entry _ => plain_of_last (comma.append _) (by decide)
  have table : Readable (.table "Value" "values" (model.canonicalEntries.map Wrapper.tableRow)) :=
    readable_table (by decide) (by decide) rows
  unfold Wrapper.introspection
  simp only [all_readable_cons, all_readable_nil, and_true]
  exact ⟨readable_query names _ (by decide) _, readable_query names _ (by decide) _,
    readable_query names _ (by decide) _, readable_query names _ (by decide) _,
    readable_query names _ (by decide) _, readable_query names _ (by decide) _, readable_gap, table⟩

theorem validity_readable : AllReadable (Wrapper.validityMembers config model) := by
  have unnamed : Told "is_valid" "underlying_type" := by decide
  have named : Told "is_valid" "underlying_type v" := by decide
  have told : Told "is_valid" (Wrapper.guard model).parameter := by
    cases Wrapper.guard model with
    | always => exact unnamed
    | equal | atMost | atLeast | between | listed | within => exact named
  have delegated : Plain "return is_valid(static_cast<underlying_type>(v));" := by decide
  unfold Wrapper.validityMembers
  simp only [all_readable_cons, all_readable_nil, and_true]
  exact ⟨readable_static names _ told (guard_nested _),
    readable_static names _ (by decide) (nested_statement delegated)⟩

theorem names_readable : AllReadable (Wrapper.nameMembers config model) := by
  have comma : Last ',' " \x7d," := rfl
  have rows : ∀ row ∈ (Wrapper.nameTable config model).rows, Plain row :=
    List.forall_mem_map.2 fun name _ => plain_of_last (comma.append _) (by decide)
  have table : Readable (.table "NameEntry" "names" (Wrapper.nameTable config model).rows) :=
    readable_table (by decide) (by decide) rows
  have fields : ∀ field ∈ [viewType config.stringType ++ " name;", "Value value;"], Plain field := by
    cases config.stringType <;> decide
  have record : Readable (.record "NameEntry" [viewType config.stringType ++ " name;",
      "Value value;"]) := readable_record "NameEntry" (by decide) fields
  have told : Told "from_string" (viewType config.stringType ++ " s") := by
    cases config.stringType <;> decide
  unfold Wrapper.nameMembers
  simp only [all_readable_cons, all_readable_nil, and_true]
  exact ⟨readable_gap, record, readable_gap, table, readable_gap,
    readable_reader names _ (by decide) (lookup_nested _),
    readable_static names _ told (search_nested _)⟩

theorem strings_readable : AllReadable (Wrapper.stringMembers config model) := by
  have byName := names_readable model names
  have byDescription : AllReadable (Wrapper.descriptionMembers config model) := by
    unfold Wrapper.descriptionMembers
    simp only [all_readable_cons, all_readable_nil, and_true]
    exact readable_reader names _ (by decide) (lookup_nested _)
  unfold Wrapper.stringMembers
  cases config.stringTable with
  | none => exact all_readable_nil
  | names => exact byName
  | namesAndDescriptions => exact all_readable_append.2 ⟨byName, byDescription⟩

theorem from_integer_readable (construct : String) :
    Readable (Wrapper.fromInteger config model construct) := by
  have refused := nested_bodied (by decide : Plain "if (!is_valid(v))")
    (nested_statement (by decide : Plain "return std::nullopt;"))
  have body := nested_statements refused (nested_statement (plain_return construct))
  exact readable_static names _ (by decide) body

theorem value_conversions_readable : AllReadable (Wrapper.valueConversions config model) := by
  have ending : Last ';' "(is_valid(v));" := rfl
  have asserted : Plain (config.assertion ++ "(is_valid(v));") :=
    plain_of_long _ ending (by decide) (by decide)
  have body := (nested_line asserted).append
    (nested_line (plain_return (model.name ++ "(static_cast<Value>(v))")))
  have unchecked : Readable (Wrapper.staticMethod config model.name "from_underlying_unsafe"
      "underlying_type v" [.line (config.assertion ++ "(is_valid(v));"),
        .line ("return " ++ (model.name ++ "(static_cast<Value>(v))") ++ ";")]) :=
    readable_static names _ (by decide) body
  unfold Wrapper.valueConversions
  simp only [all_readable_cons, all_readable_nil, and_true]
  exact ⟨unchecked, from_integer_readable model names _⟩

omit model in
theorem value_access_readable : AllReadable (Wrapper.valueAccess config) := by
  have held : Nested ([Step.line "return value_;"].flatMap Step.written) :=
    nested_statement (by decide)
  have stored : Nested ([Step.line "return static_cast<underlying_type>(value_);"].flatMap
      Step.written) := nested_statement (by decide)
  unfold Wrapper.valueAccess
  simp only [all_readable_cons, all_readable_nil, and_true]
  exact ⟨readable_reader names _ (by decide) held, readable_conversion held,
    readable_reader names _ (by decide) stored, readable_modifier (by decide) (by decide)⟩

theorem flags_conversions_readable : AllReadable (Wrapper.flagsConversions config model) := by
  have ending : Last ';' " result;" := rfl
  have declared : Plain (model.name ++ " result;") :=
    plain_of_long _ ending (by decide) (by decide)
  have assigned : Plain "result.value_ = v;" := by decide
  have returned : Plain "return result;" := by decide
  have body := (nested_line declared).append ((nested_line assigned).append (nested_line returned))
  have unchecked : Readable (Wrapper.staticMethod config model.name "from_underlying_unsafe"
      "underlying_type v"
      [.line (model.name ++ " result;"), .line "result.value_ = v;", .line "return result;"]) :=
    readable_static names _ (by decide) body
  unfold Wrapper.flagsConversions
  simp only [all_readable_cons, all_readable_nil, and_true]
  exact ⟨unchecked, from_integer_readable model names _⟩

omit model in
theorem flags_access_readable : AllReadable (Wrapper.flagsAccess config) := by
  have held : Nested ([Step.line "return value_;"].flatMap Step.written) :=
    nested_statement (by decide)
  unfold Wrapper.flagsAccess
  simp only [all_readable_cons, all_readable_nil, and_true]
  exact ⟨readable_reader names _ (by decide) held, readable_modifier (by decide) (by decide),
    readable_modifier (by decide) (by decide)⟩

omit model in
theorem flag_operations_readable : AllReadable (Wrapper.flagOperations config) := by
  unfold Wrapper.flagOperations
  simp only [all_readable_cons, all_readable_nil, and_true]
  exact ⟨readable_reader names _ (by decide) (nested_statement (by decide +kernel)),
    readable_modifier (by decide) (by decide +kernel),
    readable_modifier (by decide) (by decide +kernel),
    readable_modifier (by decide) (by decide +kernel),
    readable_modifier (by decide) (by decide +kernel), readable_gap,
    readable_reader names _ (by decide) (nested_statement (by decide +kernel)),
    readable_reader names _ (by decide) (nested_statement (by decide +kernel)),
    readable_reader names _ (by decide) (nested_statement (by decide +kernel)),
    readable_reader names _ (by decide) (nested_statement (by decide +kernel))⟩

omit model names in
theorem bit_operator_readable (owner op : String) :
    AllReadable (Wrapper.bitOperator owner op) := by
  have assigned : Plain ("a = " ++ Wrapper.combined op ++ ";") :=
    plain_of_first (((show First 'a' "a = " from rfl).append _).append ";") (by decide)
  have held : Plain ("a.value_ = " ++ Wrapper.cast ("a.value_ " ++ op ++ " b.value_") ++ ";") :=
    plain_of_first (((show First 'a' "a.value_ = " from rfl).append _).append ";") (by decide)
  have changed : Plain ("return a " ++ op ++ "= " ++ owner ++ "(b);") :=
    plain_of_first (((((show First 'r' "return a " from rfl).append op).append _).append _).append _)
      (by decide)
  unfold Wrapper.bitOperator
  simp only [all_readable_cons, all_readable_nil, and_true]
  exact ⟨readable_gap, friend_readable _ (plain_return _), friend_readable _ (plain_unchecked _ _),
    friend_readable _ (plain_mixed_right op owner), friend_readable _ (plain_mixed_left op owner),
    assignment_readable _ _ _ assigned, assignment_readable _ _ _ held, friend_readable _ changed⟩

omit model names in
theorem bit_operators_readable (owner : String) : AllReadable (Wrapper.bitOperators owner) := by
  have complement : AllReadable (Wrapper.complement owner) := by
    unfold Wrapper.complement
    simp only [all_readable_cons, all_readable_nil, and_true]
    exact ⟨friend_readable _ (by decide +kernel), friend_readable _ (plain_unchecked _ _)⟩
  simp only [Wrapper.bitOperators, List.flatMap_cons, List.flatMap_nil, all_readable_append,
    all_readable_nil, and_true]
  exact ⟨complement, bit_operator_readable owner "|", bit_operator_readable owner "&",
    bit_operator_readable owner "^"⟩

theorem wrapper_readable : AllReadable (wrapper config model).members := by
  have declared := declarations_readable model
  have introspected := introspection_readable model names
  have valid := validity_readable model names
  have strings := strings_readable model names
  have equal := equality_readable model.name
  have initial (parameters initial : String) := constructor_readable model parameters initial
  unfold wrapper
  cases model.kind with
  | value =>
      have field : Readable (.privateField "Value" "value_") :=
        readable_private (by decide) (by decide) (by decide) (by decide)
      simp only [Wrapper.ofValueEnum, all_readable_append, all_readable_cons, all_readable_nil,
        declared, introspected, valid, strings, equal, initial, readable_gap, field,
        value_conversions_readable model names, value_access_readable names, and_true, true_and]
      exact readable_query names _ (by decide) _
  | flags =>
      have field : Readable (.privateField "underlying_type" "value_") :=
        readable_private (by decide) (by decide) (by decide) (by decide)
      simp only [Wrapper.ofFlagsEnum, all_readable_append, all_readable_cons, all_readable_nil,
        declared, introspected, valid, strings, equal, initial, readable_gap, field,
        bit_operators_readable, flags_conversions_readable model names,
        flags_access_readable names, flag_operations_readable names, and_true, true_and]
      exact ⟨readable_query names _ (by decide) _, readable_query names _ (by decide) _⟩

end Blocks

end EnumHeader.Cpp
