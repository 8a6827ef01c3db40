import EnumHeader.Cpp.Runtime
import EnumHeader.Proofs.Cpp.Nesting.Steps

/-!
# Shared templates are level

Every block of the shared templates stands in the conditional block of its version macro, and the
macros that generated code uses are defined in conditional blocks of their own.
-/

namespace EnumHeader.Cpp.Nesting

set_option autoImplicit false

open Depth (flat conditioned flat_add)

def PiecesRun (before : Depth) (pieces : List Piece) (after : Depth) : Prop :=
  StepsRun before (pieces.map Piece.step) after

def PiecesLevel (pieces : List Piece) : Prop :=
  PiecesRun flat pieces flat

section Pieces

variable {first second rest : List Piece} {before middle after : Depth}

theorem PiecesRun.nil (depth : Depth) : PiecesRun depth [] depth :=
  StepsRun.nil depth

theorem PiecesRun.append (left : PiecesRun before first middle)
    (right : PiecesRun middle second after) : PiecesRun before (first ++ second) after := by
  unfold PiecesRun
  rw [List.map_append]
  exact StepsRun.append left right

section Directives

variable {directive : Directive} (harmless : HasHarmlessTexts directive)

include harmless

theorem PiecesRun.single (quiet : conditionalOf directive = none)
    (later : PiecesRun before rest after) :
    PiecesRun before (.directive directive :: rest) after :=
  Run.level (line_of_directive directive quiet harmless) later

theorem PiecesRun.opening (opens : conditionalOf directive = some .opening)
    (later : PiecesRun (conditioned + before) rest after) :
    PiecesRun before (.directive directive :: rest) after := by
  have whole := Run.cons before (line_of_opening directive opens harmless) later
  rwa [flat_add] at whole

theorem PiecesRun.branch (branches : conditionalOf directive = some .branch)
    (later : PiecesRun (conditioned + before) rest after) :
    PiecesRun (conditioned + before) (.directive directive :: rest) after :=
  Run.cons before (line_of_branch directive branches harmless) later

theorem PiecesRun.closing (closes : conditionalOf directive = some .closing)
    (later : PiecesRun before rest after) :
    PiecesRun (conditioned + before) (.directive directive :: rest) after :=
  Run.cons before (line_of_closing directive closes harmless) ((flat_add before).symm ▸ later)

end Directives

theorem PiecesLevel.around (level : PiecesLevel first) (depth : Depth) :
    PiecesRun depth first depth := by
  have within := Run.around level depth
  rwa [flat_add] at within

theorem PiecesLevel.append (left : PiecesLevel first) (right : PiecesLevel second) :
    PiecesLevel (first ++ second) :=
  PiecesRun.append left right

theorem PiecesLevel.flat_map {Item : Type} {items : List Item} {write : Item → List Piece}
    (each : ∀ item ∈ items, PiecesLevel (write item)) : PiecesLevel (items.flatMap write) := by
  unfold PiecesLevel PiecesRun
  rw [List.map_flatMap]
  exact StepsLevel.flat_map each

theorem PiecesLevel.of_code {steps : List Step} (level : StepsLevel steps) :
    PiecesLevel (steps.map Piece.code) := by
  have same : (steps.map Piece.code).map Piece.step = steps := by
    rw [List.map_map]
    exact List.map_id steps
  unfold PiecesLevel PiecesRun
  rwa [same]

theorem PiecesLevel.blank : PiecesLevel [.code .blank] :=
  Level.of_line (line_of_harmless (.literal rfl))

end Pieces

section Blocks

variable {config : Config} (names : ConfigNames config)

include names

theorem harmless_version_macro (block : Runtime.BlockName) :
    Harmless (Runtime.versionMacro config block) := by
  have block : Harmless block.text := by cases block <;> exact .literal rfl
  exact .append (.append (.append names.start (.literal rfl)) block) (.literal rfl)

theorem versioned_level (block : Runtime.BlockName) {body : List Piece}
    (inside : PiecesLevel body) : PiecesLevel (Runtime.versioned config block body) := by
  have guarded := harmless_version_macro names block
  have number := harmless_number block.version
  refine PiecesRun.append (.append (.opening guarded rfl ?_)
    (inside.around (conditioned + flat))) ?_
  · exact .single ⟨guarded, .literal rfl, number⟩ rfl (.nil _)
  · refine .branch guarded rfl (.single ?_ rfl (.closing trivial rfl (.nil flat)))
    exact .append (.append guarded (.literal rfl)) number

theorem required_macros_level : PiecesLevel (Runtime.requiredMacros config) := by
  have marked := names.nodiscard
  have asserted := names.assertion
  refine PiecesRun.opening (.literal rfl) rfl (.opening (.literal rfl) rfl ?_)
  refine .single ⟨marked, .literal rfl, .literal rfl⟩ rfl ?_
  refine .closing trivial rfl (.closing trivial rfl (.opening marked rfl ?_))
  refine .single ⟨marked, .literal rfl, .literal rfl⟩ rfl (.closing trivial rfl ?_)
  refine .opening asserted rfl (.single ⟨asserted, .literal rfl, .literal rfl⟩ rfl ?_)
  exact .closing trivial rfl (.nil flat)

theorem optional_macros_level : PiecesLevel (Runtime.optionalMacros config) := by
  have info : Harmless ("::" ++ config.runtimeNamespace ++ "::enum_info<Enum>") :=
    .append (.append (.literal rfl) names.runtime) (.literal rfl)
  have pack : Harmless (config.macroPrefix ++ "_PACK") := .append names.start (.literal rfl)
  have start : Harmless (config.macroPrefix ++ "_PACK_INIT") :=
    .append names.start (.literal rfl)
  have comment : PiecesLevel [.code (.line "// Bitfield member sized to the bits an enum needs")] :=
    Level.of_line (line_of_comment (by decide) (by decide))
  refine PiecesRun.append comment (.single ⟨pack, .literal rfl, ?_⟩ rfl
    (.single ⟨start, .literal rfl, ?_⟩ rfl (.nil flat)))
  · exact .append (.append (.append (.append (.literal rfl) info) (.literal rfl)) info)
      (.literal rfl)
  · exact .append (.append (.append pack (.literal rfl)) info) (.literal rfl)

theorem in_namespace_level {body : List Step} (inside : StepsLevel body) :
    PiecesLevel (Runtime.inNamespace config body) :=
  .of_code (namespace_level names.runtime inside)

theorem base_templates_level : PiecesLevel (Runtime.baseTemplates config) := by
  refine in_namespace_level names ?_
  have version : Harmless ("inline constexpr int runtime_version = " ++
      toString Runtime.runtimeVersion ++ ";") :=
    .append (.append (.literal rfl) (harmless_number _)) (.literal rfl)
  refine StepsRun.line version (.blank (.line (.literal rfl) (.opening (.literal rfl) ?_)))
  refine .line (.literal rfl) (.line (.literal rfl) (.line (.literal rfl) ?_))
  exact .closing line_ending (.blank (.line (.literal rfl) (.line (.literal rfl) (.nil flat))))

omit names in
theorem template_level {parameters signature statement : String} (taken : Harmless parameters)
    (signed : Harmless signature) (stated : Harmless statement) :
    StepsLevel (Runtime.template parameters signature statement) := by
  have header : Harmless ("template <" ++ parameters ++ ">") :=
    .append (.append (.literal rfl) taken) (.literal rfl)
  have declared : StepsLevel [.blank, .line ("template <" ++ parameters ++ ">")] :=
    .of_harmless (by simp [IsHarmlessStep, header])
  exact declared.append (.function (.append (.append (.literal rfl) signed) (.literal rfl))
    (.append (.append (.literal rfl) stated) (.literal rfl)))

omit names in
theorem constant_template_level {resultType name : String} (typed : Harmless resultType)
    (named : Harmless name) : StepsLevel (Runtime.constantTemplate resultType name) :=
  template_level (.literal rfl)
    (.append (.append (.append typed (.literal rfl)) named) (.literal rfl))
    (.append (.literal rfl) named)

theorem template_extensions_level : PiecesLevel (Runtime.templateExtensions config) := by
  refine in_namespace_level names ?_
  have constants : StepsLevel [.line "template <class T>",
      .line "inline constexpr bool is_value_enum_v = enum_info<T>::is_value_enum;",
      .line "template <class T>",
      .line "inline constexpr bool is_flags_enum_v = enum_info<T>::is_flags_enum;"] := by
    apply StepsLevel.of_harmless
    simp only [List.forall_mem_cons]
    exact ⟨.literal rfl, .literal rfl, .literal rfl, .literal rfl, nofun⟩
  refine .append (.append (.append (.append (.append (.append (.append (.append (.append
    constants (constant_template_level ?_ ?_)) (constant_template_level ?_ ?_))
    (constant_template_level ?_ ?_)) (constant_template_level ?_ ?_)) (template_level ?_ ?_ ?_))
    (template_level ?_ ?_ ?_)) (template_level ?_ ?_ ?_)) (template_level ?_ ?_ ?_))
    (template_level ?_ ?_ ?_)
  all_goals exact .literal rfl

theorem version_check_level :
    PiecesLevel [.code (.line ("static_assert(::" ++ config.runtimeNamespace ++
      "::runtime_version == " ++ toString Runtime.runtimeVersion ++
        ", \"generated header and runtime blocks disagree\");"))] := by
  have start : Harmless ("static_assert(::" ++ config.runtimeNamespace ++
      "::runtime_version == " ++ toString Runtime.runtimeVersion) :=
    .append (.append (.append (.literal rfl) names.runtime) (.literal rfl)) (harmless_number _)
  exact Level.of_line (line_of_ending start (by decide) (by decide) (by decide))

theorem body_level (block : Runtime.BlockName) : PiecesLevel (Runtime.body config block) := by
  cases block with
  | requiredMacros => exact required_macros_level names
  | optionalMacros => exact optional_macros_level names
  | baseTemplates => exact base_templates_level names
  | templateExtensions => exact template_extensions_level names

theorem runtime_level : PiecesLevel (Runtime.pieces config) := by
  refine .append (.flat_map fun block _ => ?_) (version_check_level names)
  exact .append (versioned_level names block (body_level names block)) .blank

end Blocks

end EnumHeader.Cpp.Nesting
