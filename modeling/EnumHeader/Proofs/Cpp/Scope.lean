import EnumHeader.Proofs.Cpp.Reading.Wrapper
import EnumHeader.Proofs.Model.Validated

/-!
# The scope of a wrapper struct

A struct declares the constants of its entries and a fixed list of members that depends on its kind
and on the string table only. Functions may share a name if their parameters differ; nothing else
may. The names that validation keeps entries from taking cover every member, so what is left to
clash is the name of the struct itself, which no rule compares with the members.
-/

namespace EnumHeader.Cpp

set_option autoImplicit false

/-- A name in the scope of a struct. A function has the type of its parameter, empty for none. -/
structure Declared where
  name : String
  parameter : Option String
  deriving DecidableEq

namespace Declared

def plain (name : String) : Declared :=
  ⟨name, none⟩

def function (name parameter : String) : Declared :=
  ⟨name, some parameter⟩

/-- Only functions share a name, and only if a call can tell them apart. -/
def Clashes (first second : Declared) : Prop :=
  first.name = second.name ∧
    (first.parameter = none ∨ second.parameter = none ∨ first.parameter = second.parameter)

instance (first second : Declared) : Decidable (first.Clashes second) :=
  inferInstanceAs (Decidable (_ ∧ _))

theorem Clashes.symm {first second : Declared} (clash : first.Clashes second) :
    second.Clashes first :=
  ⟨clash.1.symm, by
    rcases clash.2 with none | none | same
    · exact .inr (.inl none)
    · exact .inl none
    · exact .inr (.inr same.symm)⟩

end Declared

def parameterType (parameters : String) : String :=
  String.ofList (parameters.toList.takeWhile (· ≠ ' '))

def Member.declared : Member → List Declared
  | .method content => [.function content.name (parameterType content.parameters)]
  | member => member.names.map Declared.plain

def Struct.declared (struct : Struct) : List Declared :=
  struct.members.flatMap Member.declared

def Reading.Declaration.declared : Reading.Declaration → Declared
  | .function name parameters _ => .function name (parameterType parameters)
  | .alias name _ | .enumeration name _ | .constant name | .record name | .table _ name _ _ |
    .field name => .plain name

theorem Member.declared_of_declaration (member : Member) :
    member.declaration.toList.map Reading.Declaration.declared = member.declared := by
  cases member <;> rfl

theorem Struct.declared_of_declarations (struct : Struct) :
    struct.declarations.map Reading.Declaration.declared = struct.declared := by
  unfold declarations declared
  induction struct.members with
  | nil => rfl
  | cons member rest ih =>
      rw [List.flatMap_cons, ← ih, ← Member.declared_of_declaration, List.filterMap_cons]
      cases member.declaration <;> rfl

theorem Member.names_of_declared (member : Member) :
    member.declared.map Declared.name = member.names := by
  cases member <;> rfl

theorem Struct.names_of_declared (struct : Struct) :
    struct.declared.map Declared.name = struct.names := by
  simp only [declared, names, List.map_flatMap, Member.names_of_declared]

def accessDeclared : Kind → List Declared
  | .value =>
      [.function "value" "", .function "to_underlying" "", .function "reset_to_default" "",
        .function "default_value" ""]
  | .flags =>
      [.function "to_underlying" "", .function "reset_to_default" "", .function "reset_zero" "",
        .function "default_value" "", .function "all_flags_mask" ""]

def introspectionDeclared : List Declared :=
  [.function "min" "", .function "max" "", .function "count" "", .function "is_contiguous" "",
    .function "bits_required_storage" "", .function "bits_required_transmission" "",
    .plain "values"]

def operationsDeclared : Kind → List Declared
  | .value => []
  | .flags =>
      [.function "test" "Value", .function "set" "Value", .function "unset" "Value",
        .function "flip" "Value", .function "flip_all" "", .function "all" "",
        .function "any" "", .function "none" "", .function "is_single" ""]

def namesDeclared (stringType : StringType) : List Declared :=
  [.plain "NameEntry", .plain "names", .function "to_string" "",
    .function "from_string" (viewType stringType)]

def stringsDeclared (stringType : StringType) : StringTable → List Declared
  | .none => []
  | .names => namesDeclared stringType
  | .namesAndDescriptions => namesDeclared stringType ++ [.function "description" ""]

def membersAfter (config : Config) (kind : Kind) : List Declared :=
  [.function "from_underlying_unsafe" "underlying_type",
      .function "from_integer" "underlying_type"] ++
    accessDeclared kind ++ introspectionDeclared ++
    [.function "is_valid" "underlying_type", .function "is_valid" "Value"] ++
    operationsDeclared kind ++ stringsDeclared config.stringType config.stringTable ++
    [.plain "value_"]

def membersDeclared (config : Config) (kind : Kind) : List Declared :=
  [.plain "underlying_type", .plain "Value"] ++ membersAfter config kind

def memberNames (config : Config) (kind : Kind) : List String :=
  (membersDeclared config kind).map Declared.name

section Blocks

variable (config : Config) (model : Model)

theorem parameter_types :
    parameterType "" = "" ∧ parameterType "underlying_type v" = "underlying_type" ∧
      parameterType "Value v" = "Value" ∧ parameterType "Value flag" = "Value" := by
  decide +kernel

theorem parameter_type_of_guard (guard : Guard) :
    parameterType guard.parameter = "underlying_type" := by
  cases guard with
  | always =>
      -- the only parameter without a name
      decide +kernel
  | _ => exact parameter_types.2.1

theorem parameter_type_of_view (stringType : StringType) :
    parameterType (viewType stringType ++ " s") = viewType stringType := by
  cases stringType <;> decide +kernel

theorem query_declared (resultType name result : String) :
    (Wrapper.query config resultType name result).declared = [.function name ""] := by
  simp only [Wrapper.query, Member.declared, parameter_types]

theorem static_method_declared (resultType name parameters : String) (body : List Step) :
    (Wrapper.staticMethod config resultType name parameters body).declared =
      [.function name (parameterType parameters)] :=
  rfl

theorem reader_declared (resultType name parameters : String) (body : List Step) :
    (Wrapper.reader config resultType name parameters body).declared =
      [.function name (parameterType parameters)] :=
  rfl

theorem modifier_declared (name parameters statement : String) :
    (Wrapper.modifier name parameters statement).declared =
      [.function name (parameterType parameters)] :=
  rfl

theorem declarations_declared :
    (Wrapper.declarations model).flatMap Member.declared =
      [.plain "underlying_type", .plain "Value"] ++
        model.definition.entryNames.map Declared.plain := by
  have constants (names : List String) :
      (names.map Member.constant).flatMap Member.declared = names.map Declared.plain := by
    rw [List.flatMap_map]
    exact List.flatMap_pure_eq_map Declared.plain names
  unfold Wrapper.declarations
  rw [List.flatMap_append, constants]
  rfl

theorem introspection_declared :
    (Wrapper.introspection config model).flatMap Member.declared = introspectionDeclared := by
  simp only [Wrapper.introspection, List.flatMap_cons, List.flatMap_nil, query_declared]
  rfl

theorem validity_declared :
    (Wrapper.validityMembers config model).flatMap Member.declared =
      [.function "is_valid" "underlying_type", .function "is_valid" "Value"] := by
  simp only [Wrapper.validityMembers, List.flatMap_cons, List.flatMap_nil,
    static_method_declared, parameter_type_of_guard, parameter_types]
  rfl

theorem strings_declared :
    (Wrapper.stringMembers config model).flatMap Member.declared =
      stringsDeclared config.stringType config.stringTable := by
  have names : (Wrapper.nameMembers config model).flatMap Member.declared =
      namesDeclared config.stringType := by
    simp only [Wrapper.nameMembers, List.flatMap_cons, List.flatMap_nil, reader_declared,
      static_method_declared, parameter_type_of_view, parameter_types]
    rfl
  unfold Wrapper.stringMembers stringsDeclared
  cases config.stringTable with
  | none => rfl
  | names => exact names
  | namesAndDescriptions =>
      simp only [List.flatMap_append, names, Wrapper.descriptionMembers, List.flatMap_cons,
        List.flatMap_nil, reader_declared, parameter_types]
      rfl

theorem flag_operations_declared :
    (Wrapper.flagOperations config).flatMap Member.declared = operationsDeclared .flags := by
  simp only [Wrapper.flagOperations, List.flatMap_cons, List.flatMap_nil, reader_declared,
    modifier_declared, parameter_types]
  rfl

theorem friends_declared (owner : String) :
    (Wrapper.equality owner).flatMap Member.declared = [] ∧
      (Wrapper.bitOperators owner).flatMap Member.declared = [] :=
  ⟨rfl, rfl⟩

theorem wrapper_declared :
    (wrapper config model).declared =
      [.plain "underlying_type", .plain "Value"] ++
        model.definition.entryNames.map Declared.plain ++
          membersAfter config model.kind := by
  unfold wrapper membersAfter
  cases model.kind with
  | value =>
      simp only [Struct.declared, Wrapper.ofValueEnum, Wrapper.valueConversions,
        Wrapper.fromInteger, Wrapper.valueAccess, List.flatMap_append, declarations_declared,
        introspection_declared, validity_declared, strings_declared, friends_declared,
        List.flatMap_cons, List.flatMap_nil, query_declared, static_method_declared,
        reader_declared, modifier_declared, parameter_types, List.append_assoc]
      rfl
  | flags =>
      simp only [Struct.declared, Wrapper.ofFlagsEnum, Wrapper.flagsConversions,
        Wrapper.fromInteger, Wrapper.flagsAccess, List.flatMap_append, declarations_declared,
        introspection_declared, validity_declared, flag_operations_declared, strings_declared,
        friends_declared, List.flatMap_cons, List.flatMap_nil, query_declared,
        static_method_declared, reader_declared, modifier_declared, parameter_types,
        List.append_assoc]
      rfl

end Blocks

section Clashes

variable (config : Config) {model : Model}

theorem members_apart (kind : Kind) :
    (membersDeclared config kind).Pairwise fun first second => ¬first.Clashes second := by
  -- two types of strings, three tables of them and two kinds: twelve closed lists
  unfold membersDeclared membersAfter
  cases config.stringType <;> cases config.stringTable <;> cases kind <;> decide +kernel

theorem member_names_reserved (kind : Kind) :
    ∀ name ∈ memberNames config kind, name ∈ Validation.reservedNames := by
  unfold memberNames membersDeclared membersAfter
  cases config.stringType <;> cases config.stringTable <;> cases kind <;> decide +kernel

theorem constants_apart {names : List String} (distinct : names.Nodup) :
    (names.map Declared.plain).Pairwise fun first second => ¬first.Clashes second :=
  List.pairwise_map.2 (distinct.imp fun differ clash => differ clash.1)

theorem wrapper_declared_perm (model : Model) :
    (wrapper config model).declared.Perm
      (model.definition.entryNames.map Declared.plain ++ membersDeclared config model.kind) := by
  rw [wrapper_declared, List.append_assoc]
  exact List.perm_append_comm_assoc _ _ _

theorem wrapper_names_perm (model : Model) :
    (wrapper config model).names.Perm
      (model.definition.entryNames ++ memberNames config model.kind) := by
  have renamed := (wrapper_declared_perm config model).map Declared.name
  rw [Struct.names_of_declared, List.map_append, List.map_map] at renamed
  simpa [Function.comp_def, Declared.plain, memberNames] using renamed

variable {config}

theorem entry_name_free (validated : model.Validated config) {name : String}
    (member : name ∈ model.definition.entryNames) :
    name ∉ memberNames config model.kind ∧ name ≠ model.name := by
  obtain ⟨entry, inside, rfl⟩ := List.mem_map.1 member
  obtain ⟨notOwner, notReserved⟩ := validated.valid .freeNames entry inside
  exact ⟨fun taken => notReserved (member_names_reserved config _ _ taken), notOwner⟩

structure WrapperScope (config : Config) (model : Model) : Prop where
  names : (wrapper config model).names.Perm
    (model.definition.entryNames ++ memberNames config model.kind)
  apart : (wrapper config model).declared.Pairwise fun first second => ¬first.Clashes second
  constants : model.definition.entryNames.Nodup
  free : ∀ name ∈ model.definition.entryNames,
    name ∉ memberNames config model.kind ∧ name ≠ (wrapper config model).name
  /-- Nothing keeps an enum from being called like a member of its struct. -/
  owner : (wrapper config model).name ∈ (wrapper config model).names ↔
    model.definition.name ∈ memberNames config model.kind
  written : ∀ depth, ∃ printed : Reading.Printed, printed.Shows config model depth ∧
    printed.owner = (wrapper config model).name ∧
      printed.declarations.map Reading.Declaration.declared = (wrapper config model).declared

theorem scope_of_validated (given : config.GivenNames) (validated : model.Validated config) :
    WrapperScope config model where
  names := wrapper_names_perm config model
  apart := by
    have symmetric {first second : Declared} (apart : ¬first.Clashes second) :
        ¬second.Clashes first := fun clash => apart clash.symm
    -- the order does not matter to clashes, so the constants are taken to the front
    rw [(wrapper_declared_perm config model).pairwise_iff symmetric, List.pairwise_append]
    refine ⟨constants_apart validated.names_distinct, members_apart config model.kind, ?_⟩
    intro constant taken member generated clash
    obtain ⟨name, declared, rfl⟩ := List.mem_map.1 taken
    apply (entry_name_free validated declared).1
    rw [show name = member.name from clash.1]
    exact List.mem_map_of_mem generated
  constants := validated.names_distinct
  free name member := by
    rw [name_of_wrapper]
    exact entry_name_free validated member
  owner := by
    rw [name_of_wrapper, (wrapper_names_perm config model).mem_iff, List.mem_append]
    constructor
    · rintro (constant | generated)
      · exact absurd rfl (entry_name_free validated constant).2
      · exact generated
    · exact .inr
  written depth := by
    have declared := Struct.declared_of_declarations (wrapper config model)
    exact ⟨.ofModel config model, Reading.Printed.shows_of_given_names given model depth,
      (name_of_wrapper config model).symm, declared⟩

end Clashes

/-- Nothing in the struct of a validated definition clashes, and its own name is that of a member
only where the definition is called like one. -/
theorem wrapper_scope_of_validated (config : Config) (definitions : List Definition)
    (definition : Definition) (model : Model) (checked : config.check = .ok ())
    (passed : Validation.validate config definitions = .ok ()) (member : definition ∈ definitions)
    (built : Model.build config definition = .ok model) : WrapperScope config model :=
  scope_of_validated (Config.given_names_of_check checked)
    (Model.validated_of_build checked passed member built).2

def flagsNamedValue : Definition :=
  { name := "value", kind := .flags, sizeIndex := 4,
    entries := [⟨"Read", 1, ""⟩, ⟨"Write", 2, ""⟩] }

theorem scope_of_flags_named_value :
    ({} : Config).check = .ok () ∧ Validation.validate {} [flagsNamedValue] = .ok () ∧
      ∃ model, Model.build {} flagsNamedValue = .ok model ∧ WrapperScope {} model ∧
        (wrapper {} model).name ∉ (wrapper {} model).names := by
  refine ⟨rfl, rfl, _, rfl, ?_⟩
  have scope := wrapper_scope_of_validated {} [flagsNamedValue] flagsNamedValue _ rfl rfl
    (by simp) rfl
  refine ⟨scope, fun inside => ?_⟩
  exact absurd (scope.owner.1 inside) (by decide +kernel)

def valueNamedValues : Definition :=
  { name := "values", kind := .value, sizeIndex := 0, entries := [⟨"A", 0, ""⟩] }

/-- A definition can pass validation and give its struct the name of one of its members. -/
theorem struct_named_like_member :
    ({} : Config).check = .ok () ∧ Text.isIdentifier valueNamedValues.name = true ∧
      Validation.validate {} [valueNamedValues] = .ok () ∧
        ∃ model, Model.build {} valueNamedValues = .ok model ∧
          (wrapper {} model).name ∈ (wrapper {} model).names := by
  refine ⟨rfl, by decide, rfl, _, rfl, ?_⟩
  rw [(wrapper_names_perm {} _).mem_iff, List.mem_append]
  exact .inr (by decide +kernel)

end EnumHeader.Cpp
