import EnumHeader.Proofs.Cpp.Nesting.Member

/-!
# Generated structs are level

Whatever the descriptions of a model are, its wrapper struct and its specializations close what they
open, provided that its names and those of the configuration are harmless. Descriptions stand in
comments and string literals only.
-/

namespace EnumHeader.Cpp.Nesting

set_option autoImplicit false

open Depth (flat)

section Members

variable {config : Config} {model : Model}

theorem comparison_tame {owner op : String} (own : Harmless owner) (sign : Harmless op) :
    AllTame (Wrapper.comparison owner op) := by
  simp only [Wrapper.comparison, all_tame_cons]
  refine ⟨tame_friend ?_ ?_, tame_friend ?_ ?_, tame_friend ?_ ?_, all_tame_nil⟩
  -- what is left are texts put together from the names and from literals
  all_goals
    repeat' first
      | with_reducible assumption
      | with_reducible refine .append ?_ ?_
      | exact .literal rfl

theorem harmless_cast {operand : String} (harmless : Harmless operand) :
    Harmless (Wrapper.cast operand) :=
  .append (.append (.literal rfl) harmless) (.literal rfl)

theorem complement_tame {owner : String} (own : Harmless owner) :
    AllTame (Wrapper.complement owner) := by
  simp only [Wrapper.complement, all_tame_cons]
  refine ⟨tame_friend ?_ ?_, tame_friend ?_ ?_, all_tame_nil⟩
  all_goals
    repeat' first
      | with_reducible assumption
      | with_reducible refine .append ?_ ?_
      | with_reducible refine harmless_cast ?_
      | exact .literal rfl

theorem harmless_combined {op : String} (sign : Harmless op) :
    Harmless (Wrapper.combined op) := by
  have left : Harmless (Wrapper.cast "a") := harmless_cast (.literal rfl)
  have right : Harmless (Wrapper.cast "b") := harmless_cast (.literal rfl)
  have both : Harmless (Wrapper.cast "a" ++ " " ++ op ++ " " ++ Wrapper.cast "b") :=
    .append (.append (.append (.append left (.literal rfl)) sign) (.literal rfl)) right
  exact .append (.append (.literal rfl) (harmless_cast both)) (.literal rfl)

theorem tame_assignment {owner op operand statement : String} (own : Harmless owner)
    (sign : Harmless op) (typed : Harmless operand) (stated : Harmless statement) :
    IsTameMember (Wrapper.assignment owner op operand statement) := by
  refine ⟨?_, .of_harmless ?_⟩
  · repeat' first
      | with_reducible assumption
      | with_reducible refine .append ?_ ?_
      | exact .literal rfl
  · have returned : Harmless "return a;" := .literal rfl
    simp [IsHarmlessStep, stated, returned]

theorem bit_operator_tame {owner op : String} (own : Harmless owner) (sign : Harmless op) :
    AllTame (Wrapper.bitOperator owner op) := by
  have both := harmless_combined sign
  simp only [Wrapper.bitOperator, all_tame_cons]
  refine ⟨trivial, tame_friend ?_ ?_, tame_friend ?_ ?_, tame_friend ?_ ?_, tame_friend ?_ ?_,
    tame_assignment ?_ sign ?_ ?_, tame_assignment own sign own ?_, tame_friend ?_ ?_,
    all_tame_nil⟩
  all_goals
    repeat' first
      | with_reducible assumption
      | with_reducible refine .append ?_ ?_
      | with_reducible refine harmless_cast ?_
      | exact .literal rfl

theorem bit_operators_tame {owner : String} (own : Harmless owner) :
    AllTame (Wrapper.bitOperators owner) := by
  refine all_tame_append.2 ⟨complement_tame own, ?_⟩
  intro member inside
  obtain ⟨op, listed, member⟩ := List.mem_flatMap.1 inside
  have sign : Harmless op := by
    simp only [List.mem_cons, List.not_mem_nil, or_false] at listed
    rcases listed with rfl | rfl | rfl <;> exact .literal rfl
  exact bit_operator_tame own sign _ member

theorem equality_tame {owner : String} (own : Harmless owner) :
    AllTame (Wrapper.equality owner) :=
  all_tame_append.2 ⟨comparison_tame own (.literal rfl), comparison_tame own (.literal rfl)⟩

theorem declarations_tame (named : ModelNames model) : AllTame (Wrapper.declarations model) := by
  unfold Wrapper.declarations
  refine all_tame_append.2 ⟨?_, ?_⟩
  · simp only [all_tame_cons]
    refine ⟨⟨.literal rfl, named.stored⟩, trivial, ⟨.literal rfl, .literal rfl, ?_⟩, trivial,
      all_tame_nil⟩
    intro enumerator inside
    obtain ⟨entry, declared, rfl⟩ := List.mem_map.1 inside
    exact ⟨comment_lines_are_comments entry.description, named.entries entry declared,
      harmless_of_value model.kind entry.value⟩
  · intro member inside
    obtain ⟨name, declared, rfl⟩ := List.mem_map.1 inside
    exact named.entry_names name declared

theorem harmless_bool (value : Bool) : Harmless (Wrapper.boolText value) := by
  cases value <;> exact .literal rfl

theorem introspection_tame (names : ConfigNames config) (named : ModelNames model) :
    AllTame (Wrapper.introspection config model) := by
  have least : Harmless ("Value::" ++ model.least.name) := .append (.literal rfl) (named.entry_at _)
  have greatest : Harmless ("Value::" ++ model.greatest.name) :=
    .append (.literal rfl) (named.entry_at _)
  have number := harmless_number
  have truth := harmless_bool
  simp only [Wrapper.introspection, all_tame_cons]
  refine ⟨tame_query names (.literal rfl) (.literal rfl) least,
    tame_query names (.literal rfl) (.literal rfl) greatest,
    tame_query names (.literal rfl) (.literal rfl) (number _),
    tame_query names (.literal rfl) (.literal rfl) (truth _),
    tame_query names (.literal rfl) (.literal rfl) (number _),
    tame_query names (.literal rfl) (.literal rfl) (number _),
    trivial, ⟨.literal rfl, .literal rfl, ?_⟩, all_tame_nil⟩
  intro row inside
  obtain ⟨entry, declared, rfl⟩ := List.mem_map.1 inside
  exact line_of_harmless (.append (.append (.literal rfl) (named.canonical entry declared))
    (.literal rfl))

theorem validity_tame (names : ConfigNames config) :
    AllTame (Wrapper.validityMembers config model) := by
  have parameter : Harmless (Wrapper.guard model).parameter := by
    unfold Guard.parameter
    split <;> exact .literal rfl
  simp only [Wrapper.validityMembers, all_tame_cons]
  exact ⟨tame_static_method names (.literal rfl) (.literal rfl) parameter (guard_level _ _),
    tame_static_method names (.literal rfl) (.literal rfl) (.literal rfl)
      (line_level (.literal rfl)), all_tame_nil⟩

theorem arms_named (named : ModelNames model) (stringType : StringType) (textOf : Entry → String) :
    ∀ arm ∈ (Lookup.ofModel stringType model textOf).arms, Harmless arm.entry := by
  intro arm inside
  obtain ⟨entry, declared, rfl⟩ := List.mem_map.1 inside
  exact named.canonical entry declared

theorem strings_tame (names : ConfigNames config) (named : ModelNames model) :
    AllTame (Wrapper.stringMembers config model) := by
  have view := harmless_view config.stringType
  have shown (textOf : Entry → String) := lookup_level _ (arms_named named config.stringType textOf)
  have byName : AllTame (Wrapper.nameMembers config model) := by
    simp only [Wrapper.nameMembers, all_tame_cons]
    refine ⟨trivial, ⟨.literal rfl, ?_⟩, trivial, ⟨.literal rfl, .literal rfl, ?_⟩, trivial,
      tame_reader names view (.literal rfl) (.literal rfl) (shown _),
      tame_static_method names (.append (.append (.literal rfl) named.own) (.literal rfl))
        (.literal rfl) (.append view (.literal rfl)) (search_level _ named.own named.entry_names),
      all_tame_nil⟩
    · simp only [List.forall_mem_cons]
      exact ⟨.append view (.literal rfl), .literal rfl, nofun⟩
    · intro row inside
      obtain ⟨name, declared, rfl⟩ := List.mem_map.1 inside
      exact line_of_row _ (named.entry_names name declared)
  have byDescription : AllTame (Wrapper.descriptionMembers config model) := by
    simp only [Wrapper.descriptionMembers, all_tame_cons]
    exact ⟨tame_reader names view (.literal rfl) (.literal rfl) (shown _), all_tame_nil⟩
  unfold Wrapper.stringMembers
  cases config.stringTable with
  | none => exact all_tame_nil
  | names => exact byName
  | namesAndDescriptions => exact all_tame_append.2 ⟨byName, byDescription⟩

theorem tame_from_integer (names : ConfigNames config) (named : ModelNames model)
    {construct : String} (made : Harmless construct) :
    IsTameMember (Wrapper.fromInteger config model construct) := by
  refine tame_static_method names (.append (.append (.literal rfl) named.own) (.literal rfl))
    (.literal rfl) (.literal rfl) ?_
  have returned : Harmless ("return " ++ construct ++ ";") :=
    .append (.append (.literal rfl) made) (.literal rfl)
  exact StepsRun.opening (.literal rfl) (.line (.literal rfl) (.closing line_closing
    (.line returned (.nil flat))))

theorem value_members_tame (names : ConfigNames config) (named : ModelNames model) :
    AllTame (Wrapper.valueConversions config model ++ Wrapper.valueAccess config) := by
  have own := named.own
  have made : Harmless (model.name ++ "(static_cast<Value>(v))") := .append own (.literal rfl)
  have asserted : Harmless (config.assertion ++ "(is_valid(v));") :=
    .append names.assertion (.literal rfl)
  have returned : Harmless ("return " ++ (model.name ++ "(static_cast<Value>(v))") ++ ";") :=
    .append (.append (.literal rfl) made) (.literal rfl)
  have converted : StepsLevel [.line (config.assertion ++ "(is_valid(v));"),
      .line ("return " ++ (model.name ++ "(static_cast<Value>(v))") ++ ";")] :=
    .of_harmless (by simp [IsHarmlessStep, asserted, returned])
  simp only [Wrapper.valueConversions, Wrapper.valueAccess, all_tame_append, all_tame_cons]
  refine ⟨⟨tame_static_method names own (.literal rfl) (.literal rfl) converted,
      tame_from_integer names named made, all_tame_nil⟩,
    tame_reader names (.literal rfl) (.literal rfl) (.literal rfl) (line_level (.literal rfl)),
    ⟨.literal rfl, line_level (.literal rfl)⟩,
    tame_reader names (.literal rfl) (.literal rfl) (.literal rfl) (line_level (.literal rfl)),
    tame_modifier (.literal rfl) (.literal rfl) (.literal rfl), all_tame_nil⟩

theorem flags_members_tame (names : ConfigNames config) (named : ModelNames model) :
    AllTame (Wrapper.flagsConversions config model ++ Wrapper.flagsAccess config) := by
  have own := named.own
  have declared : Harmless (model.name ++ " result;") := .append own (.literal rfl)
  have assigned : Harmless "result.value_ = v;" := .literal rfl
  have returned : Harmless "return result;" := .literal rfl
  have converted : StepsLevel [.line (model.name ++ " result;"), .line "result.value_ = v;",
      .line "return result;"] :=
    .of_harmless (by simp [IsHarmlessStep, declared, assigned, returned])
  simp only [Wrapper.flagsConversions, Wrapper.flagsAccess, all_tame_append, all_tame_cons]
  refine ⟨⟨tame_static_method names own (.literal rfl) (.literal rfl) converted,
      tame_from_integer names named (.literal rfl), all_tame_nil⟩,
    tame_reader names (.literal rfl) (.literal rfl) (.literal rfl) (line_level (.literal rfl)),
    tame_modifier (.literal rfl) (.literal rfl) (.literal rfl),
    tame_modifier (.literal rfl) (.literal rfl) (.literal rfl), all_tame_nil⟩

theorem flag_operations_tame (names : ConfigNames config) :
    AllTame (Wrapper.flagOperations config) := by
  simp only [Wrapper.flagOperations, all_tame_cons]
  refine ⟨tame_reader names (.literal rfl) (.literal rfl) (.literal rfl) (line_level ?_),
    tame_modifier (.literal rfl) (.literal rfl) ?_, tame_modifier (.literal rfl) (.literal rfl) ?_,
    tame_modifier (.literal rfl) (.literal rfl) ?_, tame_modifier (.literal rfl) (.literal rfl) ?_,
    trivial,
    tame_reader names (.literal rfl) (.literal rfl) (.literal rfl) (line_level (.literal rfl)),
    tame_reader names (.literal rfl) (.literal rfl) (.literal rfl) (line_level (.literal rfl)),
    tame_reader names (.literal rfl) (.literal rfl) (.literal rfl) (line_level (.literal rfl)),
    tame_reader names (.literal rfl) (.literal rfl) (.literal rfl) (line_level (.literal rfl)),
    all_tame_nil⟩
  all_goals
    repeat' first
      | with_reducible refine .append ?_ ?_
      | with_reducible refine harmless_cast ?_
      | exact .literal rfl

end Members

section Wrapper

variable {config : Config} {model : Model}

theorem value_enum_tame (names : ConfigNames config) (named : ModelNames model) :
    AllTame (Wrapper.ofValueEnum config model).members := by
  have constant : Harmless (Wrapper.defaultConstant model) := by
    unfold Wrapper.defaultConstant Model.defaultEntry?
    split <;> exact .append (.literal rfl) (named.entry_at _)
  have members := all_tame_append.1 (value_members_tame names named)
  have empty : IsTameMember (Wrapper.constructorOf model "" (Wrapper.defaultConstant model)) :=
    tame_constructor named.own (.literal rfl) constant
  have held : IsTameMember (Wrapper.constructorOf model "Value v" "v") :=
    tame_constructor named.own (.literal rfl) (.literal rfl)
  have default : IsTameMember
      (Wrapper.query config "Value" "default_value" (Wrapper.defaultConstant model)) :=
    tame_query names (.literal rfl) (.literal rfl) constant
  have gap : IsTameMember .gap := trivial
  have field : IsTameMember (.privateField "Value" "value_") := ⟨.literal rfl, .literal rfl⟩
  simp only [Wrapper.ofValueEnum, all_tame_append, all_tame_cons, all_tame_nil, empty, held,
    default, gap, field, members, declarations_tame named, introspection_tame names named,
    validity_tame names, strings_tame names named, equality_tame named.own, and_self]

theorem flags_enum_tame (names : ConfigNames config) (named : ModelNames model) :
    AllTame (Wrapper.ofFlagsEnum config model).members := by
  have mask (bits : Nat) := harmless_of_mask bits harmless_underlying
  have members := all_tame_append.1 (flags_members_tame names named)
  have empty : IsTameMember (Wrapper.constructorOf model "" (Wrapper.defaultMask model).text) :=
    tame_constructor named.own (.literal rfl) (mask _)
  have held : IsTameMember (Wrapper.constructorOf model "Value v" (Wrapper.cast "v")) :=
    tame_constructor named.own (.literal rfl) (harmless_cast (.literal rfl))
  have default : IsTameMember (Wrapper.query config "underlying_type" "default_value"
      (Wrapper.defaultMask model).text) :=
    tame_query names (.literal rfl) (.literal rfl) (mask _)
  have all : IsTameMember (Wrapper.query config "underlying_type" "all_flags_mask"
      (Wrapper.allFlags model).text) :=
    tame_query names (.literal rfl) (.literal rfl) (mask _)
  have gap : IsTameMember .gap := trivial
  have field : IsTameMember (.privateField "underlying_type" "value_") :=
    ⟨.literal rfl, .literal rfl⟩
  simp only [Wrapper.ofFlagsEnum, all_tame_append, all_tame_cons, all_tame_nil, empty, held,
    default, all, gap, field, members, declarations_tame named, introspection_tame names named,
    validity_tame names, flag_operations_tame names, strings_tame names named,
    equality_tame named.own, bit_operators_tame named.own, and_self]

theorem wrapper_level (names : ConfigNames config) (named : ModelNames model) :
    StepsLevel (wrapper config model).steps := by
  have comments := comment_lines_are_comments model.definition.description
  unfold wrapper
  cases model.kind with
  | value => exact struct_level comments named.own (value_enum_tame names named)
  | flags => exact struct_level comments named.own (flags_enum_tame names named)

theorem run_of_constant {constantType name value : String} {before after : Depth}
    {rest : List Step} (typed : Harmless constantType) (named : Harmless name)
    (given : Harmless value) (later : StepsRun before rest after) :
    StepsRun before (infoConstant constantType name value :: rest) after :=
  .line (.append (.append (.append (.append (.append (.append (.literal rfl) typed) (.literal rfl))
    named) (.literal rfl)) given) (.literal rfl)) later

theorem enum_info_level (names : ConfigNames config) (named : ModelNames model) :
    StepsLevel (enumInfo config model) := by
  have owner := names.qualified named.own
  have ended {start ending : List Char} (first : start.all isHarmless = true)
      (last : ending.all isHarmless = true) : Harmless
        (String.ofList start ++ config.qualified model.name ++ String.ofList ending) :=
    .append (.append (.literal first) owner) (.literal last)
  have both : Harmless ("struct enum_info<" ++ config.qualified model.name ++
      "::Value> : enum_info<" ++ config.qualified model.name ++ ">") :=
    .append (.append (.append (.append (.literal rfl) owner) (.literal rfl)) owner) (.literal rfl)
  -- the braces of the second specialization are lines of their own
  have empty : StepsRun flat [.line "\x7b", .line "\x7d;"] flat :=
    Level.enclosed line_opening .nil line_ending
  refine StepsRun.line (.literal rfl) (.opening (ended rfl rfl) ?_)
  refine run_of_constant (.literal rfl) (.literal rfl) (.literal rfl) ?_
  refine run_of_constant (.literal rfl) (.literal rfl) (harmless_bool _) ?_
  refine run_of_constant (.literal rfl) (.literal rfl) (harmless_bool _) ?_
  refine .line (ended rfl rfl) (.line (ended rfl rfl) (.line (ended rfl rfl) ?_))
  refine run_of_constant (.literal rfl) (.literal rfl) (harmless_number _) ?_
  refine run_of_constant (.literal rfl) (.literal rfl) (harmless_bool _) ?_
  refine run_of_constant (.literal rfl) (.literal rfl) (harmless_number _) ?_
  refine run_of_constant (.literal rfl) (.literal rfl) (harmless_number _) ?_
  refine run_of_constant (.literal rfl) (.literal rfl) (harmless_number _) ?_
  refine run_of_constant (.literal rfl) (.literal rfl) (.append owner (.literal rfl)) ?_
  exact .closing line_ending (.blank (.line (.literal rfl) (.line both empty)))

end Wrapper

end EnumHeader.Cpp.Nesting
