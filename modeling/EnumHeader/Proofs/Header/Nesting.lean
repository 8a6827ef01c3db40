import EnumHeader.Proofs.Cpp.Lined
import EnumHeader.Proofs.Cpp.Nesting.Runtime
import EnumHeader.Proofs.Cpp.Nesting.Wrapper
import EnumHeader.Proofs.Header.Ending
import EnumHeader.Proofs.Model.Validated

/-!
# Braces and conditional blocks of a header

A header without lines and includes of its own closes every brace and every conditional block that
it opens, and none that it does not, whatever the descriptions say. The include guard of directives
is a block from its opening to the last line.
-/

namespace EnumHeader.Header

set_option autoImplicit false

open Cpp (Directive Piece Step)
open Cpp.Nesting
open Cpp.Nesting.Depth (flat conditioned)

variable {config : Config} {models : List Model}

section Levels

variable (names : ConfigNames config) (named : ∀ model ∈ models, ModelNames model)

theorem blank_level : StepsLevel [.blank] :=
  Level.of_line (line_of_harmless (.literal rfl))

include names named

theorem wrappers_level : StepsLevel (wrappers config models) := by
  have structs : StepsLevel
      (models.flatMap fun model => (Cpp.wrapper config model).steps ++ [Cpp.Step.blank]) :=
    .flat_map fun model member => (wrapper_level names (named model member)).append blank_level
  have own : Harmless config.namespaceText := .intercalate (.literal rfl) names.path
  unfold wrappers
  simp only
  split
  next => exact structs
  next =>
    have enclosed := (namespace_level own (blank_level.append structs)).append blank_level
    simpa only [List.append_assoc, List.cons_append, List.nil_append] using enclosed

theorem infos_level :
    StepsLevel (List.flatten ((models.map (Cpp.enumInfo config)).intersperse [.blank])) := by
  induction models with
  | nil => exact Level.nil
  | cons model rest ih =>
      simp only [List.forall_mem_cons] at named
      have info := enum_info_level names named.1
      cases rest with
      | nil => simpa using info
      | cons next others => exact info.append (blank_level.append (ih named.2))

theorem specializations_level : StepsLevel (specializations config models) := by
  unfold specializations
  split
  next => exact Level.nil
  next =>
    have enclosed := (namespace_level names.runtime (infos_level names named)).append blank_level
    simpa only [List.append_assoc, List.cons_append, List.nil_append] using enclosed

end Levels

section Parts

def opening (timestamp : Option Timestamp) : List String :=
  ("// Generated by enumwright " ++ generatorVersion ++ ". Do not edit by hand.") ::
    timestamp.toList.map fun time => "// Generated at " ++ time.text

def contents (config : Config) (models : List Model) : List Piece :=
  [.code .blank] ++
    standardIncludes.map (fun name => .directive (.includeFile ("<" ++ name ++ ">"))) ++
    [.code .blank] ++ Cpp.Runtime.pieces config ++ [.code .blank] ++
    (wrappers config models).map .code ++ (specializations config models).map .code

theorem harmless_padded (size n : Nat) : Harmless (Text.zeroPadded size n) := by
  have zeros : Harmless (String.ofList (List.replicate (size - (toString n).length) '0')) := by
    intro c member
    rw [String.toList_ofList] at member
    rw [List.eq_of_mem_replicate member]
    decide
  exact zeros.append (harmless_number n)

theorem harmless_time (time : Timestamp) : Harmless time.text := by
  have padded := harmless_padded
  have year : Harmless (Timestamp.yearText time.year) := by
    unfold Timestamp.yearText
    simp only
    split_ifs
    · exact .append (.literal rfl) (padded _ _)
    · exact .append (.literal rfl) (padded _ _)
    · exact padded _ _
  have sign : Harmless (if time.offset < 0 then "-" else "+") := by
    split_ifs <;> exact .literal rfl
  have offset : Harmless (Timestamp.offsetText time.offset) :=
    .append (.append (.append sign (padded _ _)) (.literal rfl)) (padded _ _)
  have date : Harmless (Timestamp.yearText time.year ++ "-" ++ Text.zeroPadded 2 time.month ++
      "-" ++ Text.zeroPadded 2 time.day) :=
    .append (.append (.append (.append year (.literal rfl)) (padded _ _)) (.literal rfl))
      (padded _ _)
  exact .append (.append (.append (.append (.append (.append (.append (.append
    date (.literal rfl)) (padded _ _)) (.literal rfl)) (padded _ _)) (.literal rfl)) (padded _ _))
    (.literal rfl)) offset

theorem opening_is_comment (timestamp : Option Timestamp) :
    ∀ line ∈ opening timestamp, ['/', '/'] <+: line.toList ∧ '\n' ∉ line.toList := by
  simp only [opening, List.forall_mem_cons]
  refine ⟨by decide +kernel, ?_⟩
  intro line inside
  obtain ⟨time, -, rfl⟩ := List.mem_map.1 inside
  have chars : ("// Generated at " ++ time.text).toList =
      ['/', '/'] ++ (" Generated at ".toList ++ time.text.toList) := by simp
  rw [chars]
  exact ⟨List.prefix_append _ _, by simpa using (harmless_time time).single⟩

theorem contents_level (names : ConfigNames config) (named : ∀ model ∈ models, ModelNames model) :
    PiecesLevel (contents config models) := by
  have includes : PiecesLevel
      (standardIncludes.map fun name => .directive (.includeFile ("<" ++ name ++ ">"))) := by
    rw [← List.flatMap_singleton' (List.map _ _), List.flatMap_map]
    refine .flat_map fun name listed => .single ?_ rfl (.nil flat)
    have own : Harmless name := by
      simp only [standardIncludes, List.mem_cons, List.not_mem_nil, or_false] at listed
      rcases listed with rfl | rfl | rfl | rfl | rfl | rfl <;> exact .literal rfl
    exact .append (.append (.literal rfl) own) (.literal rfl)
  exact .append (.append (.append (.append (.append (.append .blank includes) .blank)
    (runtime_level names)) .blank) (.of_code (wrappers_level names named)))
    (.of_code (specializations_level names named))

def writtenBy (pieces : List Piece) : List String :=
  (pieces.map Piece.step).flatMap Step.written

theorem written_by_append (first second : List Piece) :
    writtenBy (first ++ second) = writtenBy first ++ writtenBy second := by
  simp [writtenBy]

theorem written_by_directives (directives : List Directive) :
    writtenBy (directives.map Piece.directive) = directives.map Directive.text := by
  induction directives with
  | nil => rfl
  | cons directive rest ih => exact congrArg (directive.text :: ·) ih

theorem written_pieces (timestamp : Option Timestamp) (bare : config.preamble = [])
    (alone : config.extraIncludes = []) :
    writtenBy (pieces config models timestamp) =
      opening timestamp ++ (guardOpening config).map Directive.text ++
        writtenBy (contents config models) ++ (guardClosing config).map Directive.text := by
  have comments : writtenBy ([.code (.line
      ("// Generated by enumwright " ++ generatorVersion ++ ". Do not edit by hand."))] ++
        timestamp.toList.map fun time => .code (.line ("// Generated at " ++ time.text))) =
          opening timestamp := by
    cases timestamp <;> rfl
  rw [← comments, ← written_by_directives, ← written_by_directives, ← written_by_append,
    ← written_by_append, ← written_by_append]
  apply congrArg
  simp only [pieces, prologue, contents, bare, alone, List.map_nil, List.nil_append,
    List.append_nil, List.append_assoc]

end Parts

section Guard

def IsRowOf (config : Config) (line : String) (row : List Char) : Prop :=
  ∃ margin, Cpp.IsIndent margin ∧ row = margin ++ line.toList ++ returns config.lineEnding

/-- The block of the guard runs from the first conditional directive to the last row, which a line
feed ends. -/
def GuardSpans (config : Config) (rows : List (List Char)) : Prop :=
  ∃ before opener inside closer,
    rows = before ++ opener :: (inside ++ [closer, []]) ∧
      (∀ row ∈ before, conditional? row = none) ∧
      IsRowOf config (Directive.ifndef config.includeGuardMacro).text opener ∧
      nest 0 inside = some 0 ∧
      IsRowOf config (Directive.endifOf config.includeGuardMacro).text closer

theorem conditional_of_returns (ending : LineEnding) (row : List Char) :
    conditional? (row ++ returns ending) = conditional? row := by
  cases ending with
  | lf => rw [returns, List.append_nil]
  | crlf => exact conditional_of_return row

theorem nest_of_returns (ending : LineEnding) (depth : Nat) (rows : List (List Char)) :
    nest depth (rows.map (· ++ returns ending)) = nest depth rows := by
  induction rows generalizing depth with
  | nil => rfl
  | cons row rest ih =>
      have same : nestLine depth (row ++ returns ending) = nestLine depth row := by
        unfold nestLine
        rw [conditional_of_returns]
      rw [List.map_cons, nest_cons, nest_cons, same]
      exact congrArg _ (funext ih)

theorem split_rows {rows : List (List Char)} {first second : List String}
    (indented : List.Forall₂ Indented rows (first ++ second)) :
    ∃ above below, rows = above ++ below ∧ List.Forall₂ Indented above first ∧
      List.Forall₂ Indented below second :=
  ⟨_, _, (List.take_append_drop first.length rows).symm, List.forall₂_take_append _ _ _ indented,
    List.forall₂_drop_append _ _ _ indented⟩

theorem quiet_rows {rows : List (List Char)} {lines : List String}
    (indented : List.Forall₂ Indented rows lines)
    (quiet : ∀ line ∈ lines, conditional? line.toList = none) :
    ∀ row ∈ rows, conditional? row = none := by
  induction indented with
  | nil => exact nofun
  | cons row _ ih =>
      simp only [List.forall_mem_cons] at quiet ⊢
      exact ⟨(conditional_of_row row).trans quiet.1, ih quiet.2⟩

theorem row_of_indented {row : List Char} {line : String} (indented : Indented row line) :
    IsRowOf config line (row ++ returns config.lineEnding) := by
  obtain ⟨margin, blank, rfl⟩ := indented
  exact ⟨margin, blank, rfl⟩

theorem guard_spans {above inside : List String} {rows : List (List Char)}
    (quiet : ∀ line ∈ above, conditional? line.toList = none) (level : Level inside)
    (indented : List.Forall₂ Indented rows
      (above ++ (Directive.ifndef config.includeGuardMacro).text ::
        (inside ++ [(Directive.endifOf config.includeGuardMacro).text]))) :
    GuardSpans config (rows.map (· ++ returns config.lineEnding) ++ [[]]) := by
  -- the rows are cut where the lines are cut
  obtain ⟨before, later, rfl, aboveRows, laterRows⟩ := split_rows indented
  obtain ⟨opener, rest, opens, restRows, rfl⟩ := List.forall₂_cons_right_iff.1 laterRows
  obtain ⟨within, last, rfl, insideRows, lastRows⟩ := split_rows restRows
  obtain ⟨closer, ended, closes, nothing, rfl⟩ := List.forall₂_cons_right_iff.1 lastRows
  obtain rfl := List.forall₂_nil_right_iff.1 nothing
  have still := quiet_rows aboveRows quiet
  have nested := (Run.rows level insideRows).2.2
  refine ⟨before.map (· ++ returns config.lineEnding), opener ++ returns config.lineEnding,
    within.map (· ++ returns config.lineEnding), closer ++ returns config.lineEnding, by simp, ?_,
    row_of_indented opens, (nest_of_returns _ 0 within).trans nested, row_of_indented closes⟩
  intro row member
  obtain ⟨original, listed, rfl⟩ := List.mem_map.1 member
  rw [conditional_of_returns]
  exact still original listed

end Guard

section Header

variable (names : ConfigNames config) (named : ∀ model ∈ models, ModelNames model)
  (timestamp : Option Timestamp)

theorem opening_level : Level (opening timestamp) :=
  .of_lines fun line member =>
    have ⟨marked, single⟩ := opening_is_comment timestamp line member
    line_of_comment marked single

include names named in
theorem guarded_level :
    Level ((Directive.define config.includeGuardMacro "" "").text ::
      writtenBy (contents config models)) :=
  .cons (line_of_directive _ rfl ⟨names.guard, .literal rfl, .literal rfl⟩)
    (contents_level names named)

include names named in
theorem pieces_level (bare : config.preamble = []) (alone : config.extraIncludes = []) :
    Level (writtenBy (pieces config models timestamp)) := by
  have above := opening_level timestamp
  have inside : Level (writtenBy (contents config models)) := contents_level names named
  rw [written_pieces timestamp bare alone]
  unfold guardOpening guardClosing
  cases config.includeGuard with
  | none => simpa using above.append inside
  | pragmaOnce =>
      have once : Level [Directive.pragmaOnce.text] :=
        .of_line (line_of_directive .pragmaOnce rfl trivial)
      simpa using (above.append once).append inside
  | cStyle =>
      -- all that follows the comments stands in the block of the guard
      have opens := line_of_opening (.ifndef config.includeGuardMacro) rfl names.guard
      have closes := line_of_closing (.endifOf config.includeGuardMacro) rfl names.guard
      have block := Level.enclosed opens (guarded_level names named) closes
      simpa using above.append block

/-- What a header opens it closes: the braces outside of comments and string literals, and the
conditional blocks, of which the guard's is closed by the last line. -/
structure Nests (config : Config) (header : String) : Prop where
  braces : scan ⟨.code, 0⟩ header.toList = some ⟨.code, 0⟩
  conditions : nest 0 (linesOf header) = some 0
  guard : config.includeGuard = .cStyle → GuardSpans config (linesOf header)

include names named in
theorem render_nests (bare : config.preamble = []) (alone : config.extraIncludes = [])
    (indent : Cpp.IsIndent config.indent.toList) :
    Nests config (render config models timestamp) := by
  have level := pieces_level names named timestamp bare alone
  have lined := Cpp.pieces_steps_lined (pieces_lined config models timestamp)
  have text : (Cpp.layout config.indent _).toList = _ := Cpp.layout_eq_rows lined
  have indented : List.Forall₂ Indented _ (writtenBy (pieces config models timestamp)) :=
    indented_rows indent 0 _
  obtain ⟨single, scanned, nested⟩ := Run.rows level indented
  have lines := end_lines_of_text config.lineEnding text single
  constructor
  · -- the scan passes over carriage returns
    unfold render endLines
    cases config.lineEnding with
    | lf =>
        rw [text]
        exact scanned
    | crlf =>
        rw [String.toList_ofList, text, scan_returned]
        exact scanned
  · unfold render
    rw [lines, nest_append, nest_of_returns]
    exact (congrArg (Option.bind · _) nested).trans rfl
  · intro guarded
    have quiet : ∀ line ∈ opening timestamp, conditional? line.toList = none :=
      fun line member => conditional_of_comment (opening_is_comment timestamp line member).1
    have written : writtenBy (pieces config models timestamp) =
        opening timestamp ++ (Directive.ifndef config.includeGuardMacro).text ::
          ((Directive.define config.includeGuardMacro "" "").text ::
            writtenBy (contents config models) ++
              [(Directive.endifOf config.includeGuardMacro).text]) := by
      rw [written_pieces timestamp bare alone, guardOpening, guardClosing, guarded]
      simp
    rw [written] at indented
    unfold render
    rw [lines]
    exact guard_spans quiet (guarded_level names named) indented

/-- Every brace and every conditional block of a header is closed in its place. A storage type may
be called anything without braces, double quotes, hash signs, slashes, backslashes and line feeds. -/
theorem header_nests (config : Config) (definitions : List Definition)
    (timestamp : Option Timestamp) (header : String) (bare : config.preamble = [])
    (alone : config.extraIncludes = [])
    (types : ∀ sizeType ∈ config.sizeTypes, Harmless sizeType.typeName)
    (identifiers : ∀ definition ∈ definitions, Text.isIdentifier definition.name = true ∧
      ∀ name ∈ definition.entryNames, Text.isIdentifier name = true)
    (generated : generate config definitions timestamp = .ok header) : Nests config header := by
  unfold generate at generated
  rw [Outcome.check_bind_eq_ok_iff, Outcome.check_bind_eq_ok_iff, Outcome.bind_eq_ok_iff]
    at generated
  obtain ⟨checked, -, models, built, same⟩ := generated
  obtain rfl := Except.ok.inj same
  have names := config_names_of_check checked
  have named : ∀ model ∈ models, ModelNames model := by
    intro model member
    obtain ⟨definition, declared, build⟩ := Model.mem_of_build_all built member
    obtain ⟨rfl, registered, -⟩ := Model.build_eq_ok build
    obtain ⟨own, entries⟩ := identifiers _ declared
    exact ⟨harmless_of_identifier own, types _ (List.mem_of_getElem? registered),
      fun entry inside => harmless_of_identifier (entries _ (List.mem_map_of_mem inside))⟩
  exact render_nests names named timestamp bare alone (Config.accepted_of_check checked).blankIndent

def guarded : Config :=
  { namespacePath := ["app"], includeGuard := .cStyle, lineEnding := .crlf,
    stringTable := .namesAndDescriptions }

def unbalanced : Definition :=
  { name := "Mode", kind := .flags, sizeIndex := 4,
    entries := [⟨"On", 1, "\x7d\" // \x7d \\"⟩, ⟨"Off", 2, "\n#endif\n\""⟩],
    description := "\x7d;\n#endif\n\\" }

theorem nesting_of_unbalanced_descriptions :
    guarded.preamble = [] ∧ guarded.extraIncludes = [] ∧
      ∃ header, generate guarded [unbalanced] none = .ok header ∧ Nests guarded header := by
  refine ⟨rfl, rfl, _, rfl, header_nests guarded [unbalanced] none _ rfl rfl ?_ ?_ rfl⟩
  · decide +kernel
  · decide +kernel

end Header

end EnumHeader.Header
