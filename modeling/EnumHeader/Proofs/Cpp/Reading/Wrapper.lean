import EnumHeader.Proofs.Cpp.Legible
import EnumHeader.Proofs.Cpp.Lined
import EnumHeader.Proofs.Cpp.Reading.Body
import EnumHeader.Proofs.Cpp.Reading.Run
import EnumHeader.Proofs.Cpp.Reading.Struct
import EnumHeader.Proofs.Cpp.Reading.Table
import EnumHeader.Proofs.Cpp.Reading.Value
import EnumHeader.Proofs.Cpp.Uncommented
import EnumHeader.Proofs.Model.Canonical

/-!
# Members of wrappers

Where the functions, the constants and the tables of a wrapper struct are found. The two kinds of
wrapper have them in different places but with the same contents.
-/

namespace EnumHeader.Cpp

set_option autoImplicit false

open Wrapper
open Reading (Declaration)

variable (config : Config) (model : Model)

/-- The member is none of the functions and tables that both kinds of wrapper have. -/
def Member.Unrelated : Member → Prop
  | .method content => content.name ∉ ["count", "is_valid", "to_string", "from_string"]
  | .table .. => False
  | _ => True

instance : (member : Member) → Decidable member.Unrelated
  | .method _ => inferInstanceAs (Decidable (_ ∉ _))
  | .table .. => isFalse id
  | .gap | .alias .. | .enumeration .. | .constant _ | .record .. | .constructor _ | .conversion .. |
    .friend .. | .privateField .. => isTrue trivial

theorem unrelated_of_all {members : List Member}
    (all : (members.all fun member => decide member.Unrelated) = true) :
    ∀ member ∈ members, member.Unrelated := by
  simpa using all

theorem unrelated_append {left right : List Member} (first : ∀ member ∈ left, member.Unrelated)
    (last : ∀ member ∈ right, member.Unrelated) : ∀ member ∈ left ++ right, member.Unrelated :=
  List.forall_mem_append.2 ⟨first, last⟩

theorem declarations_unrelated : ∀ member ∈ declarations model, member.Unrelated := by
  simp [declarations, Member.Unrelated]

def valueMembers : List Member :=
  [.gap, constructorOf model "" (defaultConstant model), constructorOf model "Value v" "v", .gap] ++
    valueConversions config model ++ [.gap] ++ valueAccess config ++
    [.gap, query config "Value" "default_value" (defaultConstant model)]

def flagsMembers : List Member :=
  [.gap, constructorOf model "" (defaultMask model).text, constructorOf model "Value v" (cast "v"),
      .gap] ++
    flagsConversions config model ++ [.gap] ++ flagsAccess config ++
    [.gap, query config "underlying_type" "default_value" (defaultMask model).text,
      query config "underlying_type" "all_flags_mask" (allFlags model).text]

theorem members_of_wrapper :
    ∃ before between after : List Member,
      (wrapper config model).members =
        before ++ introspection config model ++ [.gap] ++ validityMembers config model ++ between ++
          stringMembers config model ++ after ∧
      ∀ member ∈ before ++ between, member.Unrelated := by
  have declared := declarations_unrelated model
  unfold wrapper
  -- Only flags have members between the validity check and the conversions.
  cases model.kind with
  | value =>
      have others : ∀ member ∈ valueMembers config model, member.Unrelated := unrelated_of_all rfl
      refine ⟨declarations model ++ valueMembers config model, [], ?_, ?_, ?_⟩
      · exact [.gap] ++ equality model.name ++ [.gap, .privateField "Value" "value_"]
      · simp only [ofValueEnum, valueMembers, List.append_assoc, List.append_nil]
      · exact unrelated_append (unrelated_append declared others) (by simp)
  | flags =>
      have others : ∀ member ∈ flagsMembers config model, member.Unrelated := unrelated_of_all rfl
      have between : ∀ member ∈ [.gap] ++ flagOperations config, member.Unrelated :=
        unrelated_of_all rfl
      refine ⟨declarations model ++ flagsMembers config model, [.gap] ++ flagOperations config, ?_,
        ?_, ?_⟩
      · exact [.gap] ++ equality model.name ++ [.gap] ++ bitOperators model.name ++
          [.gap, .privateField "underlying_type" "value_"]
      · simp only [ofFlagsEnum, flagsMembers, List.append_assoc]
      · exact unrelated_append (unrelated_append declared others) between

theorem guard_parameter (guard : Guard) :
    (Reading.readParameter (Reading.tokens guard.parameter)).1 =
      Reading.tokens "underlying_type" := by
  have unnamed : (Reading.readParameter (Reading.tokens "underlying_type")).1 =
      Reading.tokens "underlying_type" := by decide
  have named : (Reading.readParameter (Reading.tokens "underlying_type v")).1 =
      Reading.tokens "underlying_type" := by decide
  cases guard with
  | always => exact unnamed
  | equal | atMost | atLeast | between | listed | within => exact named

section Find

variable {config model} {Found : Type} {find : Declaration → Option Found}

/-- Whatever skips the other members is found among those that both kinds of wrapper have. -/
theorem find_in_wrapper
    (skips : ∀ member : Member, member.Unrelated → member.declaration.bind find = none)
    {found : Found}
    (among : (introspection config model ++ validityMembers config model ++
      stringMembers config model).findSome? (fun member => member.declaration.bind find) =
        some found) :
    (wrapper config model).declarations.findSome? find = some found := by
  obtain ⟨before, between, after, whole, unrelated⟩ := members_of_wrapper config model
  have none_before : before.findSome? (fun member => member.declaration.bind find) = none :=
    List.findSome?_eq_none_iff.2 fun member inside =>
      skips member (unrelated member (List.mem_append_left between inside))
  have none_between : between.findSome? (fun member => member.declaration.bind find) = none :=
    List.findSome?_eq_none_iff.2 fun member inside =>
      skips member (unrelated member (List.mem_append_right before inside))
  have first : [Member.gap].findSome? (fun member => member.declaration.bind find) = none := rfl
  simp only [List.findSome?_append] at among
  rw [Struct.declarations, ← List.head?_filterMap, List.filterMap_filterMap, List.head?_filterMap,
    whole]
  simp only [List.findSome?_append, none_before, none_between, first, Option.none_or,
    Option.or_none, among, Option.some_or]

theorem find_at_start {found : Found}
    (among : ((declarations model).filterMap Member.declaration).findSome? find = some found) :
    (wrapper config model).declarations.findSome? find = some found := by
  obtain ⟨later, whole, -⟩ := wrapper_members config model
  rw [Struct.declarations, whole, List.filterMap_append, List.findSome?_append, among,
    Option.some_or]

end Find

theorem skips_functions {name : String}
    (shared : name ∈ ["count", "is_valid", "to_string", "from_string"]) (parameterType : String)
    (member : Member) (unrelated : member.Unrelated) :
    member.declaration.bind (Declaration.function? name parameterType) = none := by
  cases member with
  | method content =>
      have other : content.name ≠ name := fun same => unrelated (same ▸ shared)
      simp [Member.declaration, Declaration.function?, other]
  | _ => rfl

theorem skips_tables (name : String) (member : Member) (unrelated : member.Unrelated) :
    member.declaration.bind (Declaration.table? name) = none := by
  cases member with
  | table => exact unrelated.elim
  | _ => rfl

theorem alias_of_wrapper :
    (wrapper config model).declarations.findSome? (Declaration.alias? "underlying_type") =
      some model.sizeType.typeName := by
  apply find_at_start
  simp [declarations, Member.declaration, Declaration.alias?]

theorem enumeration_of_wrapper :
    (wrapper config model).declarations.findSome? (Declaration.enumeration? "Value") =
      some (((model.definition.entries.map (enumerator model)).flatMap Enumerator.steps).flatMap
        Step.written) := by
  apply find_at_start
  simp [declarations, List.filterMap_cons, List.findSome?_cons, Member.declaration,
    Declaration.enumeration?]

theorem table_values :
    (wrapper config model).declarations.findSome? (Declaration.table? "values") =
      some ("Value", model.canonicalEntries.length, model.canonicalEntries.map tableRow) := by
  apply find_in_wrapper (skips_tables "values")
  simp [introspection, query, Member.declaration, Declaration.table?]

theorem function_count :
    (wrapper config model).declarations.findSome? (Declaration.function? "count" "") =
      some ("", [Step.line ("return " ++ toString model.metadata.uniqueCount ++ ";")].flatMap
        Step.written) := by
  have parameter : (Reading.readParameter (Reading.tokens "")).1 = Reading.tokens "" := by decide
  apply find_in_wrapper (skips_functions (by decide) "")
  simp [introspection, query, Member.declaration, Declaration.function?,
    parameter]

theorem function_is_valid :
    (wrapper config model).declarations.findSome?
        (Declaration.function? "is_valid" "underlying_type") =
      some ((Wrapper.guard model).parameter,
        (Wrapper.guard model).steps.flatMap Step.written) := by
  have parameter := guard_parameter (Wrapper.guard model)
  apply find_in_wrapper (skips_functions (by decide) "underlying_type")
  simp [introspection, query, validityMembers, staticMethod,
    Member.declaration, Declaration.function?, parameter]

section Names

variable {config} (tabled : config.stringTable ≠ .none)
include tabled

theorem string_members_eq :
    ∃ after, stringMembers config model = nameMembers config model ++ after := by
  unfold stringMembers
  cases table : config.stringTable with
  | none => exact absurd table tabled
  | names => exact ⟨[], (List.append_nil _).symm⟩
  | namesAndDescriptions => exact ⟨descriptionMembers config model, rfl⟩

theorem table_names :
    (wrapper config model).declarations.findSome? (Declaration.table? "names") =
      some ("NameEntry", (nameTable config model).rows.length, (nameTable config model).rows) := by
  obtain ⟨after, members⟩ := string_members_eq model tabled
  apply find_in_wrapper (skips_tables "names")
  simp [introspection, query, validityMembers, staticMethod, members, nameMembers,
    List.findSome?_cons, Member.declaration, Declaration.table?]

theorem function_to_string :
    (wrapper config model).declarations.findSome? (Declaration.function? "to_string" "") =
      some ("", (nameLookup config model).steps.flatMap Step.written) := by
  have parameter : (Reading.readParameter (Reading.tokens "")).1 = Reading.tokens "" := by decide
  obtain ⟨after, members⟩ := string_members_eq model tabled
  apply find_in_wrapper (skips_functions (by decide) "")
  simp [introspection, query, validityMembers, staticMethod, reader, members, nameMembers,
    List.findSome?_cons, Member.declaration, Declaration.function?, parameter]

omit tabled in
theorem view_parameter (stringType : StringType) :
    Reading.readParameter (Reading.tokens (viewType stringType ++ " s")) =
      (Reading.tokens (viewType stringType), some "s") := by
  cases stringType <;> decide

theorem function_from_string :
    (wrapper config model).declarations.findSome?
        (Declaration.function? "from_string" (viewType config.stringType)) =
      some (viewType config.stringType ++ " s",
        (nameTable config model).searchSteps.flatMap Step.written) := by
  have parameter := congrArg Prod.fst (view_parameter config.stringType)
  obtain ⟨after, members⟩ := string_members_eq model tabled
  apply find_in_wrapper (skips_functions (by decide) _)
  simp [introspection, query, validityMembers, staticMethod, reader, members, nameMembers,
    List.findSome?_cons, Member.declaration, Declaration.function?, parameter]

end Names

namespace Reading

namespace Printed

/-- What the lines of the wrapper of a model say. -/
def ofModel (config : Config) (model : Model) : Printed where
  storage := model.sizeType
  owner := model.name
  declarations := (wrapper config model).declarations
  constant := constantOf model.sizeType (wrapper config model).declarations

theorem shows_of_given_names {config : Config} (names : config.GivenNames) (model : Model)
    (depth : Nat) : (ofModel config model).Shows config model depth where
  text := is_text_of_steps depth (struct_lined (wrapper_bodies_lined config model))
  read := by
    have comments : ∀ line ∈ (wrapper config model).comment, IsComment line := by
      rw [comment_of_wrapper]
      exact comment_lines_are_comments model.definition.description
    have declarations := read_declarations (wrapper_readable model names)
    have stored := alias_of_wrapper config model
    unfold Struct.declarations at stored
    unfold ofLines
    rw [read_struct comments]
    simp only [Option.bind_eq_bind, Option.bind_some, declarations, stored, if_true,
      name_of_wrapper]
    rfl

theorem function_of_lines (printed : Printed) {name parameterType parameters : String}
    {lines : List String} {body : List Statement}
    (found : printed.declarations.findSome? (Declaration.function? name parameterType) =
      some (parameters, lines))
    (reads : readLines lines = some body) :
    printed.function name parameterType = some (parameters, body) := by
  simp [function, found, reads]

theorem call_of_function (printed : Printed) {name parameterType parameters : String}
    {body : List Statement} (found : printed.function name parameterType = some (parameters, body))
    (held argument : Datum) :
    printed.call name parameterType held argument =
      result (printed.scopeOf parameters held argument) body := by
  simp [call, found]

theorem labels_of_function (printed : Printed) {name parameterType parameters : String}
    {body : List Statement}
    (found : printed.function name parameterType = some (parameters, body)) :
    printed.labels name parameterType =
      (body.flatMap Statement.labels).mapM (printed.scope .nothing).evaluate := by
  simp [labels, found]

theorem size_of_table (printed : Printed) {name elementType : String} {size : Nat}
    {rows : List String}
    (found : printed.declarations.findSome? (Declaration.table? name) =
      some (elementType, size, rows)) :
    printed.tableSize name = some size := by
  simp [tableSize, found]

/-- The constants stand for the values of the entries they are named after. -/
def Denotes (definition : Definition) (constant : String → Option Int) : Prop :=
  ∀ entry ∈ definition.entries, constant entry.name = some entry.value

variable {config : Config} {model : Model}

theorem constant_of_entry (validated : model.Validated config) {entry : Entry}
    (member : entry ∈ model.definition.entries)
    (code : isCommentLine entry.name.toList = false) :
    (ofModel config model).constant entry.name = some entry.value := by
  have comments : ∀ constant ∈ model.definition.entries.map (enumerator model),
      ∀ line ∈ constant.comment, IsComment line :=
    List.forall_mem_map.2 fun entry _ => comment_lines_are_comments entry.description
  have words : ∀ constant ∈ model.definition.entries.map (enumerator model),
      HasWordType constant.value :=
    List.forall_mem_map.2 fun entry _ => word_type_of_value model.kind entry.value
  have only (other : Entry) : ((!isCommentLine other.name.toList) = true ∧
      decide (other.name = entry.name) = true) ↔ other.name = entry.name := by
    constructor
    · exact fun both => of_decide_eq_true both.2
    · intro same
      simp [same, code]
  have found : (readEnumerators (((model.definition.entries.map (enumerator model)).flatMap
      Enumerator.steps).flatMap Step.written)).find? (·.1 = entry.name) =
        some (entry.name, (Literal.ofValue model.kind entry.value).text) := by
    rw [read_enumerators comments words, List.filter_map, List.map_map, List.find?_map,
      List.find?_filter]
    have named := validated.find_by_name member
    simp only [Function.comp_def, enumerator, only, named, Option.map_some]
  have reads := read_literal_text (word_type_of_value model.kind entry.value)
  have value : Scope.evaluate { storage := model.sizeType }
      (literalExpression (.ofValue model.kind entry.value)) = some (.integer entry.value) :=
    evaluate_of_value validated.width_bounds.1 (validated.represents member)
      validated.width_bounds.2 (fun flags => validated.nonneg_of_flags flags entry member)
      (validated.fits entry member)
  simp [ofModel, constantOf, enumeration_of_wrapper config model, found, readValue, reads, value]

theorem code_of_word {name : String} (word : IsWord name) : isCommentLine name.toList = false := by
  rw [Bool.eq_false_iff]
  intro comment
  obtain ⟨rest, start⟩ := List.isPrefixOf_iff_prefix.1 comment
  have inside : '/' ∈ name.toList := by
    apply List.dropWhile_subset (fun c => c == ' ' || c == '\t')
    rw [← start]
    exact List.mem_cons_self
  exact absurd (word.parts '/' inside) (by decide)

theorem denotes_of_words (validated : model.Validated config)
    (words : ∀ entry ∈ model.definition.entries, IsWord entry.name) :
    Denotes model.definition (ofModel config model).constant := by
  intro entry member
  exact constant_of_entry validated member (code_of_word (words entry member))

section Tables

variable {printed : Printed} (declared : printed.declarations = (wrapper config model).declarations)
  (denotes : Denotes model.definition printed.constant)
include declared

theorem call_count :
    printed.call "count" "" .nothing .nothing = some (.integer model.metadata.uniqueCount) := by
  let size := model.metadata.uniqueCount
  have line : tokens ("return " ++ toString size ++ ";") =
      [.word "return", .number (decimalText size .none), .mark ";"] := by
    unfold tokens
    simp only [String.toList_append, List.append_assoc, decimal_of_nat]
    rw [scan_piece advance_return,
      scan_number (decimal_is_number size .none) _ separate_semicolon, scan_semicolon]
    simp only [List.cons_append, List.nil_append]
  have value : readExpression [.number (decimalText size .none), .mark ";"] =
      some (numberExpression size .none, [.mark ";"]) := by
    apply read_expression_of_chain 2 (by simp)
    intro fuel
    exact read_chain_operand (read_number_operand (read_decimal size .none) fuel [.mark ";"])
      (stops_semicolon 0 [])
  have reads : readLines ([Step.line ("return " ++ toString size ++ ";")].flatMap Step.written) =
      some [.give (numberExpression size .none)] := by
    rw [read_lines_of_line, line]
    exact read_body_return value 2
  have counted := function_count config model
  rw [← declared] at counted
  rw [call_of_function printed (function_of_lines printed counted reads), result_of_give]
  rfl

include denotes

theorem table_of_values :
    printed.table "values" = some (model.canonicalEntries.map fun entry => .integer entry.value) := by
  have table := table_values config model
  rw [← declared] at table
  simp only [Printed.table, table, Option.bind_eq_bind, Option.bind_some]
  apply read_rows
  intro entry canonical
  have value := denotes entry (Model.mem_of_canonical canonical)
  simp only [row, tableRow, read_constant_row, value, if_true, Option.bind_eq_bind,
    Option.bind_some]

theorem table_of_names (tabled : config.stringTable ≠ .none)
    (words : ∀ entry ∈ model.definition.entries, IsWord entry.name) :
    printed.table "names" =
      some (model.definition.entries.map fun entry => .row entry.name.toList entry.value) := by
  have table := table_names model tabled
  rw [← declared] at table
  have rows : (nameTable config model).rows =
      model.definition.entries.map ((nameTable config model).row ∘ Entry.name) := by
    simp [NameTable.rows, nameTable, NameTable.ofModel, Definition.entryNames]
  simp only [Printed.table, table, rows, Option.bind_eq_bind, Option.bind_some]
  apply read_rows
  intro entry member
  have value := denotes entry member
  have read := read_name_row (nameTable config model) (words entry member)
  simp [row, read, value]

end Tables

end Printed

end Reading

end EnumHeader.Cpp
