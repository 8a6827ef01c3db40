import EnumHeader.Proofs.Cpp.Preprocessing.Blocks

/-!
# Bodies of blocks

What a preprocessor makes of the body of a block. Lines of code are kept as they are; of the
definitions in conditional blocks one is kept for each name, whatever the compiler answers.
-/

namespace EnumHeader.Cpp.Preprocessing

set_option autoImplicit false

open Nesting (Harmless directiveName nest)
open Reading (IsWord)
open Cpp.Runtime (BlockName)

section Plain

def IsPlain (steps : List Step) : Prop :=
  ∀ line ∈ steps.flatMap Step.written, '#' ∉ line.toList

theorem no_hash_of_harmless {text : String} (harmless : Harmless text) : '#' ∉ text.toList :=
  fun member => absurd (harmless _ member) (by decide)

theorem IsPlain.append {first second : List Step} (left : IsPlain first) (right : IsPlain second) :
    IsPlain (first ++ second) := by
  unfold IsPlain
  rw [List.flatMap_append, List.forall_mem_append]
  exact ⟨left, right⟩

theorem template_is_plain {parameters signature statement : String} (taken : Harmless parameters)
    (signed : Harmless signature) (stated : Harmless statement) :
    IsPlain (Runtime.template parameters signature statement) := by
  simp [IsPlain, Runtime.template, Step.written, no_hash_of_harmless taken,
    no_hash_of_harmless signed, no_hash_of_harmless stated]

theorem constant_template_is_plain {resultType name : String} (typed : Harmless resultType)
    (named : Harmless name) : IsPlain (Runtime.constantTemplate resultType name) :=
  template_is_plain (.literal rfl)
    (.append (.append (.append typed (.literal rfl)) named) (.literal rfl))
    (.append (.literal rfl) named)

end Plain

section Bodies

variable {compiler : Compiler} {macros : List Macro} {choices : List Choice}
  (active : choices.all (· = .taken) = true)

include active

section Default

variable {name parameters replacement : String} (word : IsWord name)
  (separate : Reading.Separate (parameters ++ blankBefore replacement).toList)

include word

theorem process_default (defined : isDefined compiler macros name = false)
    (separate : Reading.Separate (parameters ++ blankBefore replacement).toList) :
    process compiler ⟨macros, choices⟩
        [(Directive.ifNotDefined name).text.toList,
          (Directive.define name parameters replacement).text.toList,
          Directive.endif.text.toList] =
      some (⟨macroOf name parameters replacement :: macros, choices⟩,
        [(Directive.define name parameters replacement).text.toList]) := by
  have asked := holds_not_defined compiler macros word
  rw [defined] at asked
  refine process_opening rfl active asked (process_define word separate ?_ ?_)
  · simpa [Choice.next] using active
  · exact process_closing rfl rfl

theorem process_default_skipped (defined : isDefined compiler macros name = true) :
    process compiler ⟨macros, choices⟩
        [(Directive.ifNotDefined name).text.toList,
          (Directive.define name parameters replacement).text.toList,
          Directive.endif.text.toList] = some (⟨macros, choices⟩, []) := by
  have asked := holds_not_defined compiler macros word
  rw [defined] at asked
  exact process_opening rfl active asked
    (process_idle rfl (by simp [Choice.next]) (process_closing rfl rfl))

end Default

/-- The attribute is looked for only by compilers that can be asked; for the others the inner
question is skipped. -/
theorem process_mark {name : String} (word : IsWord name) :
    process compiler ⟨macros, choices⟩
        [(Directive.ifDefined "__has_cpp_attribute").text.toList,
          (Directive.ifHasAttribute "nodiscard").text.toList,
          (Directive.define name "" "[[nodiscard]]").text.toList, Directive.endif.text.toList,
          Directive.endif.text.toList] =
      if compiler.marks then
        some (⟨macroOf name "" "[[nodiscard]]" :: macros, choices⟩,
          [(Directive.define name "" "[[nodiscard]]").text.toList])
      else some (⟨macros, choices⟩, []) := by
  have test : IsWord "__has_cpp_attribute" := by decide
  have marker : IsWord "nodiscard" := by decide
  have asked := holds_defined compiler macros test
  change _ = some compiler.asks at asked
  cases asks : compiler.asks with
  | false =>
      rw [asks] at asked
      have marks : compiler.marks = false := by simp [Compiler.marks, asks]
      have skipped : (Choice.next false :: choices).all (· = .taken) = false := by
        simp [Choice.next]
      have nested : nest 0 [(Directive.ifHasAttribute "nodiscard").text.toList,
          (Directive.define name "" "[[nodiscard]]").text.toList,
          Directive.endif.text.toList] = some 0 := by
        simp [nest, Nesting.nestLine, Nesting.conditional_of_directive, Nesting.conditionalOf,
          Nesting.Conditional.move]
      have inner : process compiler ⟨macros, .next false :: choices⟩ _ = _ :=
        process_skipped skipped nested
      have closed : process compiler ⟨macros, .next false :: choices⟩
          [Directive.endif.text.toList] = some (⟨macros, choices⟩, []) :=
        process_closing rfl rfl
      rw [marks]
      exact process_opening rfl active asked (process_append inner closed)
  | true =>
      rw [asks] at asked
      have known := holds_has_attribute compiler macros marker asks
      have inside : (Choice.next true :: choices).all (· = .taken) = true := by
        simpa [Choice.next] using active
      cases knows : compiler.knows "nodiscard" with
      | false =>
          rw [knows] at known
          have marks : compiler.marks = false := by simp [Compiler.marks, knows]
          rw [marks]
          refine process_opening rfl active asked (process_opening rfl inside known ?_)
          refine process_idle rfl (by simp [Choice.next]) ?_
          exact process_closing rfl (process_closing rfl rfl)
      | true =>
          rw [knows] at known
          have marks : compiler.marks = true := by simp [Compiler.marks, asks, knows]
          rw [marks]
          refine process_opening rfl active asked (process_opening rfl inside known ?_)
          refine process_define word (Reading.separate_of_separates (by decide)) ?_ ?_
          · simpa [Choice.next] using active
          · exact process_closing rfl (process_closing rfl rfl)

theorem process_code {unit : String} (indent : IsIndent unit.toList) {steps : List Step}
    (plain : IsPlain steps) :
    process compiler ⟨macros, choices⟩ (rowsFrom unit 0 steps) =
      some (⟨macros, choices⟩, rowsFrom unit 0 steps) := by
  have kept : Stage.isActive ⟨macros, choices⟩ = true := active
  refine process_plain kept ?_
  have indented := Nesting.indented_rows indent 0 steps
  unfold IsPlain at plain
  generalize rowsFrom unit 0 steps = rows at indented
  generalize steps.flatMap Step.written = lines at indented plain
  induction indented with
  | nil => exact nofun
  | cons row _ ih =>
      simp only [List.forall_mem_cons] at plain ⊢
      obtain ⟨margin, blank, rfl⟩ := row
      refine ⟨?_, ih plain.2⟩
      rw [Nesting.directive_name_of_margin blank]
      exact Nesting.directive_name_of_no_hash plain.1

end Bodies

section Blocks

variable {compiler : Compiler} {config : Config}
  (own : Text.isIdentifier config.runtimeNamespace = true) {macros : List Macro} {choices : List Choice} (active : choices.all (· = .taken) = true)

include active

section Required

include own

theorem process_marking (fresh : config.nodiscard ∉ macros.map Macro.name) :
    process compiler ⟨macros, choices⟩
        ([(Directive.ifDefined "__has_cpp_attribute").text.toList,
          (Directive.ifHasAttribute "nodiscard").text.toList,
          (Directive.define config.nodiscard "" "[[nodiscard]]").text.toList,
          Directive.endif.text.toList, Directive.endif.text.toList] ++
        [(Directive.ifNotDefined config.nodiscard).text.toList,
          (Directive.define config.nodiscard "" "").text.toList, Directive.endif.text.toList]) =
      some (⟨macroOf config.nodiscard "" compiler.marking :: macros, choices⟩,
        [(Directive.define config.nodiscard "" compiler.marking).text.toList]) := by
  have word : IsWord config.nodiscard := word_of_prefix own (by decide)
  have defined (macros : List Macro) : isDefined compiler macros config.nodiscard =
      decide (config.nodiscard ∈ macros.map Macro.name) :=
    is_defined_eq .requiredMacros (by decide)
  have first : process compiler ⟨macros, choices⟩ _ = _ := process_mark active word
  unfold Compiler.marking
  cases marks : compiler.marks with
  | false =>
      rw [marks] at first
      have free : isDefined compiler macros config.nodiscard = false := by
        rw [defined, decide_eq_false fresh]
      exact process_append first (process_default active word free nofun)
  | true =>
      rw [marks] at first
      have marked : isDefined compiler (macroOf config.nodiscard "" "[[nodiscard]]" :: macros)
          config.nodiscard = true := by
        rw [defined]
        simp [macroOf]
      exact process_append first (process_default_skipped active word marked)

theorem process_required
    (fresh : ∀ suffix ∈ bodySuffixes .requiredMacros,
      config.macroPrefix ++ suffix ∉ macros.map Macro.name) :
    process compiler ⟨macros, choices⟩ (rowsOf config.indent (Runtime.requiredMacros config)) =
      some (⟨definitions (keptBody compiler config .requiredMacros) ++ macros, choices⟩,
        rowsOf config.indent (keptBody compiler config .requiredMacros)) := by
  have word : IsWord config.assertion := word_of_prefix own (by decide)
  have differ : config.assertion ≠ config.nodiscard := by
    simp [Config.assertion, Config.nodiscard]
  have free : isDefined compiler
      (macroOf config.nodiscard "" compiler.marking :: macros) config.assertion = false := by
    have new : config.assertion ∉ macros.map Macro.name := fresh "_ASSERT" (by decide)
    have defined : isDefined compiler
        (macroOf config.nodiscard "" compiler.marking :: macros) config.assertion =
          decide (config.assertion ∈ _) := is_defined_eq .requiredMacros (by decide)
    rw [defined]
    simpa [macroOf, differ] using new
  have marking : process compiler ⟨macros, choices⟩ _ = _ :=
    process_marking own active (fresh "_NODISCARD" (by decide))
  have asserting := process_default active word free
    (Reading.separate_of_separates (by decide) : Reading.Separate
      ("(expr)" ++ blankBefore "assert(expr)").toList)
  have rows : rowsOf config.indent (Runtime.requiredMacros config) =
      ([(Directive.ifDefined "__has_cpp_attribute").text.toList,
          (Directive.ifHasAttribute "nodiscard").text.toList,
          (Directive.define config.nodiscard "" "[[nodiscard]]").text.toList,
          Directive.endif.text.toList, Directive.endif.text.toList] ++
        [(Directive.ifNotDefined config.nodiscard).text.toList,
          (Directive.define config.nodiscard "" "").text.toList, Directive.endif.text.toList]) ++
      [(Directive.ifNotDefined config.assertion).text.toList,
        (Directive.define config.assertion "(expr)" "assert(expr)").text.toList,
        Directive.endif.text.toList] := by
    simp only [Runtime.requiredMacros, rows_of_directive]
    rfl
  have kept : rowsOf config.indent (keptBody compiler config .requiredMacros) =
      [(Directive.define config.nodiscard "" compiler.marking).text.toList] ++
        [(Directive.define config.assertion "(expr)" "assert(expr)").text.toList] := by
    simp only [keptBody, rows_of_directive]
    rfl
  have defined : definitions (keptBody compiler config .requiredMacros) =
      [macroOf config.assertion "(expr)" "assert(expr)",
        macroOf config.nodiscard "" compiler.marking] := rfl
  rw [rows, kept, defined]
  exact process_append marking asserting

end Required

section Optional

include own

theorem process_optional :
    process compiler ⟨macros, choices⟩ (rowsOf config.indent (Runtime.optionalMacros config)) =
      some (⟨definitions (Runtime.optionalMacros config) ++ macros, choices⟩,
        rowsOf config.indent (Runtime.optionalMacros config)) := by
  have pack : IsWord (config.macroPrefix ++ "_PACK") := word_of_prefix own (by decide)
  have start : IsWord (config.macroPrefix ++ "_PACK_INIT") := word_of_prefix own (by decide)
  have parameters (replacement : String) :
      Reading.Separate ("(Enum, Name)" ++ blankBefore replacement).toList := by
    rw [String.toList_append]
    exact Reading.separate_append (by decide) _
  obtain ⟨member, initialized, pieces⟩ : ∃ member initialized, Runtime.optionalMacros config =
      [.code (.line "// Bitfield member sized to the bits an enum needs"),
        .directive (.define (config.macroPrefix ++ "_PACK") "(Enum, Name)" member),
        .directive (.define (config.macroPrefix ++ "_PACK_INIT") "(Enum, Name)" initialized)] :=
    ⟨_, _, rfl⟩
  have rows : rowsOf config.indent (Runtime.optionalMacros config) =
      "// Bitfield member sized to the bits an enum needs".toList ::
        [(Directive.define (config.macroPrefix ++ "_PACK") "(Enum, Name)" member).text.toList,
          (Directive.define (config.macroPrefix ++ "_PACK_INIT") "(Enum, Name)"
            initialized).text.toList] := by
    have comment (rest : List Piece) : rowsOf config.indent
        (.code (.line "// Bitfield member sized to the bits an enum needs") :: rest) =
          "// Bitfield member sized to the bits an enum needs".toList ::
            rowsOf config.indent rest :=
      congrArg (· :: _) (row_at_margin _)
    rw [pieces, comment, rows_of_directive, rows_of_directive]
    rfl
  have defined : definitions (Runtime.optionalMacros config) =
      [macroOf (config.macroPrefix ++ "_PACK_INIT") "(Enum, Name)" initialized,
        macroOf (config.macroPrefix ++ "_PACK") "(Enum, Name)" member] := by
    rw [pieces]
    rfl
  have reached : Stage.isActive ⟨macros, choices⟩ = true := active
  have plain : process compiler ⟨macros, choices⟩
      ["// Bitfield member sized to the bits an enum needs".toList] =
        some (⟨macros, choices⟩, ["// Bitfield member sized to the bits an enum needs".toList]) :=
    process_plain reached (by decide)
  rw [rows, defined]
  refine process_append plain ?_
  exact process_define pack (parameters _) active (process_define start (parameters _) active rfl)

end Optional

section Namespace

variable (indent : IsIndent config.indent.toList)

include own indent

theorem process_namespace {body : List Step}
    (plain : IsPlain body) :
    process compiler ⟨macros, choices⟩ (rowsOf config.indent (Runtime.inNamespace config body)) =
      some (⟨definitions (Runtime.inNamespace config body) ++ macros, choices⟩,
        rowsOf config.indent (Runtime.inNamespace config body)) := by
  have named := no_hash_of_harmless (Nesting.harmless_of_identifier own)
  have undefined : definitions (Runtime.inNamespace config body) = [] := by
    unfold definitions Runtime.inNamespace
    rw [definitions_of_code]
    rfl
  have steps : (Runtime.inNamespace config body).map Piece.step =
      [Step.line ("namespace " ++ config.runtimeNamespace), .line "\x7b"] ++ body ++
        [Step.line ("\x7d // namespace " ++ config.runtimeNamespace)] := by
    unfold Runtime.inNamespace
    rw [List.map_map]
    exact List.map_id _
  rw [undefined]
  unfold rowsOf
  rw [steps]
  refine process_code active indent (.append (.append ?_ plain) ?_)
  · simp [IsPlain, Step.written, named]
  · simp [IsPlain, Step.written, named]

end Namespace

section Bodies

variable (indent : IsIndent config.indent.toList)

include own indent

/-- A body whose macros are new is kept, but for the conditional blocks in it. -/
theorem process_body (block : BlockName)
    (fresh : ∀ suffix ∈ bodySuffixes block,
      config.macroPrefix ++ suffix ∉ macros.map Macro.name) :
    process compiler ⟨macros, choices⟩ (rowsOf config.indent (Runtime.body config block)) =
      some (⟨definitions (keptBody compiler config block) ++ macros, choices⟩,
        rowsOf config.indent (keptBody compiler config block)) := by
  cases block with
  | requiredMacros => exact process_required own active fresh
  | optionalMacros => exact process_optional own active
  | baseTemplates =>
      have number : '#' ∉ Nat.toDigits 10 Runtime.runtimeVersion := by decide
      refine process_namespace own active indent ?_
      simp [IsPlain, Step.written, number]
  | templateExtensions =>
      refine process_namespace own active indent ?_
      refine .append (.append (.append (.append (.append (.append (.append (.append (.append
        ?_ (constant_template_is_plain ?_ ?_)) (constant_template_is_plain ?_ ?_))
        (constant_template_is_plain ?_ ?_)) (constant_template_is_plain ?_ ?_))
        (template_is_plain ?_ ?_ ?_)) (template_is_plain ?_ ?_ ?_)) (template_is_plain ?_ ?_ ?_))
        (template_is_plain ?_ ?_ ?_)) (template_is_plain ?_ ?_ ?_)
      · simp [IsPlain, Step.written]
      all_goals exact .literal rfl

end Bodies

end Blocks

end EnumHeader.Cpp.Preprocessing
