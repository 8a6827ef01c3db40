import EnumHeader.Proofs.Cpp.Lined
import EnumHeader.Proofs.Cpp.Preprocessing.Table
import EnumHeader.Proofs.Header.Ending

/-!
# Headers included one after the other

The shared templates of several headers come one after the other to a preprocessor that starts with
none of their macros. Whatever blocks the configurations switch on, each block is kept in the first
header that has it and skipped in all later ones, each macro is defined once, and no error is
reached.
-/

namespace EnumHeader.Cpp.Preprocessing

set_option autoImplicit false

open Cpp.Runtime (BlockName versionMacro)
open Header (linesOf)

def sourceOf (config : Config) (pieces : List Piece) : String :=
  layout config.indent (pieces.map Piece.step)

/-- The macros after some texts, with the lines that are kept of each. Every text has to close its
conditional blocks. -/
def includeAll (compiler : Compiler) (macros : List Macro) :
    List String → Option (List Macro × List (List (List Char)))
  | [] => some (macros, [])
  | text :: rest => do
      let (⟨after, []⟩, kept) ← process compiler ⟨macros, []⟩ (linesOf text) | none
      let (last, others) ← includeAll compiler after rest
      some (last, kept :: others)

theorem include_all_cons {compiler : Compiler} {macros between after : List Macro} {text : String}
    {rest : List String} {kept : List (List Char)} {others : List (List (List Char))}
    (processed : process compiler ⟨macros, []⟩ (linesOf text) = some (⟨between, []⟩, kept))
    (included : includeAll compiler between rest = some (after, others)) :
    includeAll compiler macros (text :: rest) = some (after, kept :: others) := by
  rw [includeAll, processed]
  simp only [Option.bind_eq_bind, Option.bind_some, included]

def keptPieces (compiler : Compiler) (seen : List BlockName) (config : Config) : List Piece :=
  ((Runtime.blocks config).flatMap fun block =>
      (if block ∈ seen then [] else keptBlock compiler config block) ++ [.code .blank]) ++
    [.code (.line
      ("static_assert(::" ++ config.runtimeNamespace ++ "::runtime_version == " ++
        toString Runtime.runtimeVersion ++ ", \"generated header and runtime blocks disagree\");"))]

/-- The table holds the macros of the blocks that have been seen, those of each block once. -/
def Collects (compiler : Compiler) (config : Config) (start : List Macro) (seen : List BlockName)
    (macros : List Macro) : Prop :=
  ∃ included : List BlockName, included.Nodup ∧ (∀ block, block ∈ included ↔ block ∈ seen) ∧
    macros = tableOf compiler config start included

section Text

variable (compiler : Compiler) (config : Config)

theorem blocks_nodup : (Runtime.blocks config).Nodup := by
  unfold Runtime.blocks
  cases config.bitfieldMacros <;> cases config.traitExtensions <;> decide

theorem kept_lined (seen : List BlockName) : PiecesLined (keptPieces compiler seen config) := by
  have body (block : BlockName) : PiecesLined (keptBody compiler config block) := by
    cases block with
    | requiredMacros => exact pieces_lined_of_directives [_, _]
    | optionalMacros => exact Runtime.body_lined config .optionalMacros
    | baseTemplates => exact Runtime.body_lined config .baseTemplates
    | templateExtensions => exact Runtime.body_lined config .templateExtensions
  unfold keptPieces
  refine pieces_lined_append.2 ⟨?_, by simp [PiecesLined, Piece.step, Step.IsLined]⟩
  intro piece inside
  obtain ⟨block, -, inside⟩ := List.mem_flatMap.1 inside
  rcases List.mem_append.1 inside with kept | blank
  · split at kept
    next => cases kept
    next =>
      rcases List.mem_cons.1 kept with rfl | within
      · trivial
      · exact body block piece within
  · obtain rfl := List.mem_singleton.1 blank
    trivial

variable {config}

theorem blank_ends_at_margin : EndsAtMargin [.code .blank] :=
  rfl

theorem source_ends_at_margin (block : BlockName) : EndsAtMargin
    (Runtime.versioned config block (Runtime.body config block) ++ [.code .blank]) :=
  margin_of_append (versioned_ends_at_margin block) blank_ends_at_margin

variable {compiler} in
theorem unseen_ends_at_margin (seen : List BlockName) (block : BlockName) :
    EndsAtMargin (if block ∈ seen then [] else keptBlock compiler config block) := by
  split
  · rfl
  · exact kept_ends_at_margin compiler block

theorem lines_of_source {pieces : List Piece} (lined : PiecesLined pieces)
    (single : ∀ row ∈ rowsOf config.indent pieces, '\n' ∉ row) :
    linesOf (sourceOf config pieces) = rowsOf config.indent pieces ++ [[]] := by
  have text : (sourceOf config pieces).toList = textOf (rowsOf config.indent pieces) :=
    layout_eq_rows (pieces_steps_lined lined)
  unfold linesOf
  rw [text]
  exact split_text_of single

end Text

section Header

def newBlocks (seen : List BlockName) (config : Config) : List BlockName :=
  (Runtime.blocks config).filter (· ∉ seen)

variable (compiler : Compiler) {config : Config} {macros : List Macro} {seen : List BlockName}

theorem new_blocks_nodup : (newBlocks seen config).reverse.Nodup :=
  List.nodup_reverse.2 ((blocks_nodup config).filter _)

theorem not_seen_of_new {block : BlockName} (new : block ∈ (newBlocks seen config).reverse) :
    block ∉ seen :=
  of_decide_eq_true (List.mem_filter.1 (List.mem_reverse.1 new)).2

theorem seen_with_new_iff (block : BlockName) :
    block ∈ seen ++ Runtime.blocks config ↔ block ∈ seen ++ (newBlocks seen config).reverse := by
  by_cases known : block ∈ seen <;> simp [newBlocks, known]

theorem Knows.after_header (knows : Knows config seen macros) :
    Knows config (seen ++ Runtime.blocks config)
      (tableOf compiler config macros (newBlocks seen config).reverse) :=
  (knows.table new_blocks_nodup fun _ => not_seen_of_new).congr seen_with_new_iff

variable (checked : config.check = .ok ()) (knows : Knows config seen macros)

include checked knows

theorem process_block (block : BlockName) :
    process compiler ⟨macros, []⟩
        (rowsOf config.indent (Runtime.versioned config block (Runtime.body config block))) =
      some (⟨tableOf compiler config macros (if block ∈ seen then [] else [block]), []⟩,
        rowsOf config.indent (if block ∈ seen then [] else keptBlock compiler config block)) := by
  have names := Nesting.config_names_of_check checked
  have indent : IsIndent config.indent.toList := (Config.accepted_of_check checked).blankIndent
  have own : Text.isIdentifier config.runtimeNamespace = true :=
    (Config.given_names_of_check checked).runtime
  by_cases known : block ∈ seen
  · rw [if_pos known, if_pos known, process_known_block own indent names (knows.known block known)]
    rfl
  · rw [if_neg known, if_neg known, process_new_block own indent (knows.fresh block known)]
    simp [tableOf]

theorem process_blocks {blocks : List BlockName} (nodup : blocks.Nodup) :
    process compiler ⟨macros, []⟩
        (rowsOf config.indent (blocks.flatMap fun block =>
          Runtime.versioned config block (Runtime.body config block) ++ [.code .blank])) =
      some (⟨tableOf compiler config macros (blocks.filter (· ∉ seen)).reverse, []⟩,
        rowsOf config.indent (blocks.flatMap fun block =>
          (if block ∈ seen then [] else keptBlock compiler config block) ++ [.code .blank])) := by
  -- by induction on the blocks, of which none comes twice in one header
  induction blocks generalizing seen macros with
  | nil => rfl
  | cons block rest ih =>
      obtain ⟨other, nodup⟩ := List.nodup_cons.1 nodup
      have first := process_block compiler checked knows block
      have knowsMore : Knows config (seen ++ [block])
          (tableOf compiler config macros (if block ∈ seen then [] else [block])) := by
        by_cases known : block ∈ seen
        · rw [if_pos known]
          exact knows.congr fun next => by simp +contextual [known]
        · rw [if_neg known]
          exact knows.table (List.nodup_singleton block) (by simpa using known)
      have later := ih knowsMore nodup
      have blank : process compiler
          ⟨tableOf compiler config macros (if block ∈ seen then [] else [block]), []⟩
            (rowsOf config.indent [.code .blank]) =
          some (⟨tableOf compiler config macros (if block ∈ seen then [] else [block]), []⟩,
            rowsOf config.indent [.code .blank]) :=
        process_plain rfl fun line empty => by
          rw [List.mem_singleton.1 empty]
          rfl
      have apart : ∀ next ∈ rest, (next ∈ seen ++ [block] ↔ next ∈ seen) := by
        intro next member
        have different : next ≠ block := fun same => other (same ▸ member)
        simp [different]
      have unseen : (rest.flatMap fun next =>
            (if next ∈ seen ++ [block] then [] else keptBlock compiler config next) ++
              [Piece.code .blank]) =
          rest.flatMap fun next =>
            (if next ∈ seen then [] else keptBlock compiler config next) ++ [.code .blank] :=
        List.flatMap_congr fun next member => by simp only [apart next member]
      have collected : tableOf compiler config
            (tableOf compiler config macros (if block ∈ seen then [] else [block]))
              (rest.filter (· ∉ seen ++ [block])).reverse =
          tableOf compiler config macros ((block :: rest).filter (· ∉ seen)).reverse := by
        have same : rest.filter (· ∉ seen ++ [block]) = rest.filter (· ∉ seen) :=
          List.filter_congr fun next member => by simp only [apart next member]
        rw [same, ← table_of_append]
        by_cases known : block ∈ seen <;> simp [known]
      have level : EndsAtMargin (if block ∈ seen then [] else keptBlock compiler config block) :=
        unseen_ends_at_margin seen block
      rw [unseen, collected] at later
      rw [List.flatMap_cons, List.flatMap_cons,
        rows_of_append (source_ends_at_margin block),
        rows_of_append (versioned_ends_at_margin block),
        rows_of_append (margin_of_append level blank_ends_at_margin), rows_of_append level]
      exact process_append (process_append first blank) later

theorem process_header :
    process compiler ⟨macros, []⟩ (linesOf (sourceOf config (Runtime.pieces config))) =
      some (⟨tableOf compiler config macros (newBlocks seen config).reverse, []⟩,
        linesOf (sourceOf config (keptPieces compiler seen config))) := by
  have names := Nesting.config_names_of_check checked
  have indent : IsIndent config.indent.toList := (Config.accepted_of_check checked).blankIndent
  have processed := process_blocks compiler checked knows (blocks_nodup config)
  have number : '#' ∉ Nat.toDigits 10 Runtime.runtimeVersion := by decide
  have named := no_hash_of_harmless names.runtime
  have plain : IsPlain [.line ("static_assert(::" ++ config.runtimeNamespace ++
      "::runtime_version == " ++ toString Runtime.runtimeVersion ++
        ", \"generated header and runtime blocks disagree\");")] := by
    simp [IsPlain, Step.written, number, named]
  have check : process compiler
      ⟨tableOf compiler config macros (newBlocks seen config).reverse, []⟩ _ =
        some (⟨tableOf compiler config macros (newBlocks seen config).reverse, []⟩, _) :=
    process_code rfl indent plain
  have rows : process compiler ⟨macros, []⟩ (rowsOf config.indent (Runtime.pieces config)) =
      some (⟨tableOf compiler config macros (newBlocks seen config).reverse, []⟩,
        rowsOf config.indent (keptPieces compiler seen config)) := by
    unfold Runtime.pieces keptPieces
    rw [rows_of_append (margin_of_flat_map source_ends_at_margin _),
      rows_of_append (margin_of_flat_map (fun block =>
        margin_of_append (unseen_ends_at_margin seen block) blank_ends_at_margin) _)]
    exact process_append processed check
  have single := ((Nesting.runtime_level names).rows (Nesting.indented_rows indent 0 _)).1
  have ended : process compiler
      ⟨tableOf compiler config macros (newBlocks seen config).reverse, []⟩ [[]] =
        some (⟨tableOf compiler config macros (newBlocks seen config).reverse, []⟩, [[]]) := by
    exact process_plain rfl fun line empty => by
      rw [List.mem_singleton.1 empty]
      rfl
  rw [lines_of_source (Runtime.pieces_lined config) single,
    lines_of_source (kept_lined compiler config seen)
      fun row member => single row ((process_kept rows).sublist.subset member)]
  exact process_append rows ended

end Header

section Headers

variable {compiler : Compiler} {configs : List Config} {start macros : List Macro}
  {seen : List BlockName}

def templates (config : Config) : String :=
  sourceOf config (Runtime.pieces config)

def earlierBlocks (configs : List Config) (position : Nat) : List BlockName :=
  (configs.take position).flatMap Runtime.blocks

theorem Collects.of_shared {config other : Config}
    (shared : other.runtimeNamespace = config.runtimeNamespace)
    (collects : Collects compiler config start seen macros) :
    Collects compiler other start seen macros := by
  obtain ⟨included, nodup, same, rfl⟩ := collects
  exact ⟨included, nodup, same, (table_of_shared shared).symm⟩

theorem Collects.knows {config : Config} (free : IsFree config start)
    (collects : Collects compiler config start seen macros) : Knows config seen macros := by
  obtain ⟨included, nodup, same, rfl⟩ := collects
  exact ((Knows.of_free free).table nodup fun _ _ => List.not_mem_nil).congr fun block =>
    (same block).symm

theorem Collects.after_header {config : Config}
    (collects : Collects compiler config start seen macros) :
    Collects compiler config start (seen ++ Runtime.blocks config)
      (tableOf compiler config macros (newBlocks seen config).reverse) := by
  obtain ⟨included, nodup, same, rfl⟩ := collects
  have apart : (newBlocks seen config).reverse.Disjoint included := fun block new early =>
    not_seen_of_new new ((same block).1 early)
  refine ⟨(newBlocks seen config).reverse ++ included,
    List.nodup_append'.2 ⟨new_blocks_nodup, nodup, apart⟩, fun block => ?_,
    (table_of_append _ _).symm⟩
  rw [seen_with_new_iff, List.mem_append, List.mem_append, same, or_comm]

theorem IsFree.of_shared {config other : Config}
    (shared : other.runtimeNamespace = config.runtimeNamespace) (free : IsFree config start) :
    IsFree other start := by
  unfold IsFree Config.macroPrefix at *
  rwa [shared]

/-- From header to header the table collects what the next ones skip. -/
theorem include_headers {reference : Config} (checked : ∀ config ∈ configs, config.check = .ok ())
    (shared : ∀ config ∈ configs, config.runtimeNamespace = reference.runtimeNamespace)
    (free : IsFree reference start) (collects : Collects compiler reference start seen macros) :
    ∃ after kept, includeAll compiler macros (configs.map templates) = some (after, kept) ∧
      (∀ position, kept[position]? = configs[position]?.map fun config =>
        linesOf (sourceOf config
          (keptPieces compiler (seen ++ earlierBlocks configs position) config))) ∧
      (∀ lines ∈ kept, ∀ line ∈ lines, String.ofList (Nesting.directiveName line) ≠ "error") ∧
      Collects compiler reference start (seen ++ configs.flatMap Runtime.blocks) after := by
  -- by induction on the headers, with the blocks of all earlier ones
  induction configs generalizing seen macros with
  | nil =>
      rw [← List.append_nil seen] at collects
      exact ⟨macros, [], rfl, fun _ => rfl, nofun, collects⟩
  | cons config rest ih =>
      simp only [List.forall_mem_cons] at checked shared
      have here := collects.of_shared shared.1
      have processed := process_header compiler checked.1 (here.knows (free.of_shared shared.1))
      obtain ⟨after, others, included, lines, silent, last⟩ :=
        ih checked.2 shared.2 (here.after_header.of_shared shared.1.symm)
      refine ⟨after, linesOf (sourceOf config (keptPieces compiler seen config)) :: others,
        include_all_cons processed included, ?_, ?_, by simpa using last⟩
      · intro position
        cases position with
        | zero => simp [earlierBlocks]
        | succ position => simpa [earlierBlocks] using lines position
      · exact List.forall_mem_cons.2 ⟨(process_kept processed).silent, silent⟩

end Headers

section Once

variable {configs : List Config}

def IsFirst (configs : List Config) (block : BlockName) (position : Nat) : Prop :=
  (∃ config, configs[position]? = some config ∧ block ∈ Runtime.blocks config) ∧
    block ∉ earlierBlocks configs position

theorem first_unique {block : BlockName} (emitted : block ∈ configs.flatMap Runtime.blocks) :
    ∃! position, IsFirst configs block position := by
  induction configs with
  | nil => cases emitted
  | cons config rest ih =>
      by_cases here : block ∈ Runtime.blocks config
      · refine ⟨0, ⟨⟨config, rfl, here⟩, nofun⟩, ?_⟩
        rintro (_ | position) ⟨-, later⟩
        · rfl
        · exact (later (List.mem_flatMap.2 ⟨config, List.mem_cons_self, here⟩)).elim
      · have later : block ∈ rest.flatMap Runtime.blocks := by
          simpa [here] using emitted
        have shift (position : Nat) :
            IsFirst (config :: rest) block (position + 1) ↔ IsFirst rest block position := by
          simp [IsFirst, earlierBlocks, here]
        obtain ⟨position, first, only⟩ := ih later
        refine ⟨position + 1, (shift position).2 first, ?_⟩
        rintro (_ | other) found
        · obtain ⟨⟨_, same, inside⟩, -⟩ := found
          obtain rfl := Option.some.inj same
          exact (here inside).elim
        · exact congrArg (· + 1) (only other ((shift other).1 found))

end Once

structure IncludedOnce (compiler : Compiler) (configs : List Config) (after : List Macro)
    (kept : List (List (List Char))) : Prop where
  /-- Each header keeps the blocks that no earlier one has, and skips the others. -/
  lines : ∀ position, kept[position]? = configs[position]?.map fun config =>
    linesOf (sourceOf config (keptPieces compiler (earlierBlocks configs position) config))
  once : ∀ config ∈ configs, ∀ block ∈ Runtime.blocks config,
    ∃! position, IsFirst configs block position
  versions : ∀ config ∈ configs, ∀ block ∈ Runtime.blocks config,
    (after.map Macro.name).count (versionMacro config block) = 1
  nodiscard : ∀ config ∈ configs, (after.map Macro.name).count config.nodiscard = 1
  assertion : ∀ config ∈ configs, (after.map Macro.name).count config.assertion = 1
  silent : ∀ lines ∈ kept, ∀ line ∈ lines, String.ofList (Nesting.directiveName line) ≠ "error"

/-- Any headers of one namespace can be included together, whatever the compiler answers. -/
theorem headers_included_once (compiler : Compiler) {configs : List Config} {start : List Macro}
    (checked : ∀ config ∈ configs, config.check = .ok ())
    (shared : ∀ config ∈ configs, ∀ other ∈ configs,
      config.runtimeNamespace = other.runtimeNamespace)
    (free : ∀ config ∈ configs, IsFree config start) :
    ∃ after kept, includeAll compiler start (configs.map templates) = some (after, kept) ∧
      IncludedOnce compiler configs after kept := by
  cases configs with
  | nil => exact ⟨start, [], rfl, by constructor <;> simp⟩
  | cons first rest =>
      have begins : Collects compiler first start [] start := ⟨[], by simp [tableOf]⟩
      have same : ∀ config ∈ first :: rest, config.runtimeNamespace = first.runtimeNamespace :=
        fun config member => shared config member first List.mem_cons_self
      obtain ⟨after, kept, included, lines, silent, collects⟩ :=
        include_headers checked same (free first List.mem_cons_self) begins
      have once : ∀ config ∈ first :: rest, ∀ block ∈ Runtime.blocks config,
          ∀ suffix ∈ suffixes block,
            (after.map Macro.name).count (config.macroPrefix ++ suffix) = 1 := by
        intro config member block emitted suffix listed
        obtain ⟨blocks, nodup, seen, rfl⟩ := collects.of_shared (same config member)
        have came : block ∈ blocks :=
          (seen block).2 (List.mem_flatMap.2 ⟨config, member, emitted⟩)
        exact count_of_table (free config member) listed nodup came
      have required (config : Config) : BlockName.requiredMacros ∈ Runtime.blocks config := by
        simp [Runtime.blocks]
      refine ⟨after, kept, included, lines, ?_, ?_, ?_, ?_, silent⟩
      · intro config member block emitted
        exact first_unique (List.mem_flatMap.2 ⟨config, member, emitted⟩)
      · intro config member block emitted
        rw [version_macro_eq]
        exact once config member block emitted _ (version_listed block)
      · exact fun config member => once config member _ (required config) "_NODISCARD" (by decide)
      · exact fun config member => once config member _ (required config) "_ASSERT" (by decide)

/-- The second header brings the blocks that the first leaves out, and the third brings none. -/
theorem toggled_headers_included_once :
    ∃ after kept, includeAll ⟨true, (· == "nodiscard")⟩ [macroOf "NDEBUG" "" "1"]
        ([{ bitfieldMacros := false, traitExtensions := false }, { indent := "\t" },
          { traitExtensions := false }].map templates) = some (after, kept) ∧
      IncludedOnce ⟨true, (· == "nodiscard")⟩
        [{ bitfieldMacros := false, traitExtensions := false }, { indent := "\t" },
          { traitExtensions := false }] after kept :=
  headers_included_once _ (by decide +kernel) (by decide +kernel) (by decide +kernel)

end EnumHeader.Cpp.Preprocessing
