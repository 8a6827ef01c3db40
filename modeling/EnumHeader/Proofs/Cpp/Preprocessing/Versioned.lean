import EnumHeader.Proofs.Cpp.Preprocessing.Bodies

/-!
# Blocks behind their version macros

A block whose version macro is not defined is kept and adds its macros. Where the macro already holds
the same version, the block is skipped as a whole, with the conditional blocks in it. Which of the
two happens depends on the blocks that came before alone, and in no case is the error reached.
-/

namespace EnumHeader.Cpp.Preprocessing

set_option autoImplicit false

open Reading (IsWord)
open Cpp.Runtime (BlockName versionMacro)

section Layout

variable {config : Config}

theorem body_ends_at_margin (block : BlockName) : EndsAtMargin (Runtime.body config block) := by
  cases block <;> rfl

theorem kept_ends_at_margin (compiler : Compiler) (block : BlockName) :
    EndsAtMargin (keptBlock compiler config block) := by
  cases block <;> rfl

theorem versioned_ends_at_margin (block : BlockName) :
    EndsAtMargin (Runtime.versioned config block (Runtime.body config block)) := by
  cases block <;> rfl

theorem rows_of_versioned (block : BlockName) :
    rowsOf config.indent (Runtime.versioned config block (Runtime.body config block)) =
      (Directive.ifNotDefined (versionMacro config block)).text.toList ::
        (Directive.define (versionMacro config block) "" (toString block.version)).text.toList ::
          (rowsOf config.indent (Runtime.body config block) ++
            [(Directive.elifNotEqual (versionMacro config block) block.version).text.toList,
              (Directive.error (versionMacro config block ++
                " mismatch: this header was generated for version " ++
                  toString block.version)).text.toList,
              Directive.endif.text.toList]) := by
  unfold Runtime.versioned
  simp only [List.cons_append, List.nil_append]
  rw [rows_of_directive, rows_of_directive, rows_of_append (body_ends_at_margin block),
    rows_of_directive, rows_of_directive, rows_of_directive]
  rfl

end Layout

section Blocks

variable {compiler : Compiler} {config : Config}
  (own : Text.isIdentifier config.runtimeNamespace = true)
  (indent : IsIndent config.indent.toList) {macros : List Macro} {block : BlockName}

section New

include own

theorem word_of_version (block : BlockName) : IsWord (versionMacro config block) := by
  rw [version_macro_eq]
  apply word_of_prefix own
  cases block <;> decide

include indent

/-- The branches after the first one are passed over. -/
theorem process_new_block
    (fresh : ∀ suffix ∈ suffixes block, config.macroPrefix ++ suffix ∉ macros.map Macro.name) :
    process compiler ⟨macros, []⟩
        (rowsOf config.indent (Runtime.versioned config block (Runtime.body config block))) =
      some (⟨definitions (keptBlock compiler config block) ++ macros, []⟩,
        rowsOf config.indent (keptBlock compiler config block)) := by
  have word := word_of_version own block
  have asked := holds_not_defined compiler macros word
  have undefined : isDefined compiler macros (versionMacro config block) = false := by
    rw [version_macro_eq, is_defined_eq block (version_listed block)]
    exact decide_eq_false (fresh _ (version_listed block))
  rw [undefined] at asked
  -- the version macro is none of those that the body defines
  have still : ∀ suffix ∈ bodySuffixes block, config.macroPrefix ++ suffix ∉
      (macroOf (versionMacro config block) "" (toString block.version) ::
        macros).map Macro.name := by
    intro suffix listed
    have other : suffix ≠ versionSuffix block := by
      revert suffix
      cases block <;> decide
    have new := fresh suffix (List.mem_append_left _ listed)
    simp [macroOf, version_macro_eq, other] at new ⊢
    exact new
  have inside : process compiler ⟨macroOf (versionMacro config block) "" (toString block.version) ::
      macros, [.taken]⟩ (rowsOf config.indent (Runtime.body config block)) = _ :=
    process_body own rfl indent block still
  have defined : definitions (keptBlock compiler config block) ++ macros =
      definitions (keptBody compiler config block) ++
        macroOf (versionMacro config block) "" (toString block.version) :: macros := by
    simp [definitions, keptBlock, definitionOf]
  have closed : process compiler
      ⟨definitions (keptBlock compiler config block) ++ macros, [.taken]⟩
        [(Directive.elifNotEqual (versionMacro config block) block.version).text.toList,
          (Directive.error (versionMacro config block ++
            " mismatch: this header was generated for version " ++
              toString block.version)).text.toList,
          Directive.endif.text.toList] =
      some (⟨definitions (keptBlock compiler config block) ++ macros, []⟩, []) :=
    process_other_branch rfl (process_idle rfl rfl (process_closing rfl rfl))
  have separate : Reading.Separates ("" ++ blankBefore (toString block.version)).toList := by
    cases block <;> decide
  rw [rows_of_versioned, keptBlock, rows_of_directive]
  rw [← defined] at inside
  have kept := process_append inside closed
  rw [List.append_nil] at kept
  exact process_opening rfl rfl asked
    (process_define word (Reading.separate_of_separates separate) rfl kept)

end New

section Known

variable (names : Nesting.ConfigNames config)
  (found : macros.find? (·.name = versionMacro config block) =
    some (macroOf (versionMacro config block) "" (toString block.version)))

include own indent names found

/-- The version is compared, and being the same leads to no branch. -/
theorem process_known_block :
    process compiler ⟨macros, []⟩
        (rowsOf config.indent (Runtime.versioned config block (Runtime.body config block))) =
      some (⟨macros, []⟩, []) := by
  have word := word_of_version own block
  have asked := holds_not_defined compiler macros word
  have defined : isDefined compiler macros (versionMacro config block) = true := by
    rw [version_macro_eq, is_defined_eq block (version_listed block), ← version_macro_eq,
      decide_eq_true_eq]
    exact List.mem_map_of_mem (List.mem_of_find?_eq_some found)
  rw [defined] at asked
  have compared := holds_not_equal compiler macros word block.version
  simp only [value_of_number found, Option.map_some, bne_self_eq_false] at compared
  have nested := ((Nesting.body_level names block).rows
    (Nesting.indented_rows indent 0 ((Runtime.body config block).map Piece.step))).2.2
  have inside : process compiler ⟨macros, [.waiting]⟩
      (rowsOf config.indent (Runtime.body config block)) = some (⟨macros, [.waiting]⟩, []) :=
    @process_skipped compiler macros [.waiting] rfl _ _ _ nested
  have closed : process compiler ⟨macros, [.waiting]⟩
        [(Directive.elifNotEqual (versionMacro config block) block.version).text.toList,
          (Directive.error (versionMacro config block ++
            " mismatch: this header was generated for version " ++
              toString block.version)).text.toList,
          Directive.endif.text.toList] = some (⟨macros, []⟩, []) :=
    process_branch rfl compared (process_idle rfl rfl (process_closing rfl rfl))
  rw [rows_of_versioned]
  exact process_opening rfl rfl asked (process_idle rfl rfl (process_append inside closed))

end Known

end Blocks

end EnumHeader.Cpp.Preprocessing
