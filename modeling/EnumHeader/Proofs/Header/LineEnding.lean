import EnumHeader.Proofs.Cpp.Returnless.Runtime
import EnumHeader.Proofs.Header.Formatting
import EnumHeader.Proofs.Model.Validated

/-!
# Line breaks of a header

The line ending of the configuration is the only line break in a header, unless a description has a
carriage return with something visible after it in its line. Such a carriage return is taken over
into a comment as it is.
-/

namespace EnumHeader.Header

set_option autoImplicit false

open Cpp

section Endings

/-- After each carriage return stands a line feed. -/
def FeedsAfterReturns (text : List Char) : Prop :=
  ∀ before after, text = before ++ '\r' :: after → after.head? = some '\n'

/-- The line ending is the only line break in the text. -/
def EndsUniformly (ending : LineEnding) (text : List Char) : Prop :=
  match ending with
  | .lf => '\r' ∉ text
  | .crlf => ReturnsBeforeFeeds text ∧ FeedsAfterReturns text

theorem feeds_after_returns_cons {c : Char} {rest : List Char} :
    FeedsAfterReturns (c :: rest) ↔
      (c = '\r' → rest.head? = some '\n') ∧ FeedsAfterReturns rest := by
  constructor
  · intro feeds
    refine ⟨?_, fun before after split => feeds (c :: before) after (by rw [split]; rfl)⟩
    rintro rfl
    exact feeds [] rest rfl
  · rintro ⟨head, later⟩ before after split
    cases before with
    | nil =>
        obtain ⟨rfl, rfl⟩ := List.cons.inj split
        exact head rfl
    | cons first others => exact later others after (List.cons.inj split).2

theorem feeds_after_returns_iff (text : List Char) :
    FeedsAfterReturns (text.flatMap returned) ↔ '\r' ∉ text := by
  induction text with
  | nil => simp [FeedsAfterReturns]
  | cons c rest ih =>
      by_cases feed : c = '\n'
      · have text : (c :: rest).flatMap returned = '\r' :: '\n' :: rest.flatMap returned := by
          simp [returned, feed]
        rw [text, feeds_after_returns_cons, feeds_after_returns_cons, ih]
        simp [feed]
      · rw [returned_of_other feed, feeds_after_returns_cons, ih]
        simp [head_returned, eq_comm]

theorem ends_uniformly_iff (ending : LineEnding) (text : String) :
    EndsUniformly ending (endLines ending text).toList ↔ Returnless text := by
  cases ending with
  | lf => exact Iff.rfl
  | crlf =>
      have ended : (endLines .crlf text).toList = text.toList.flatMap returned :=
        String.toList_ofList
      rw [EndsUniformly, ended, feeds_after_returns_iff]
      exact and_iff_right (returns_before_feeds _)

end Endings

section Prologue

theorem returnless_padded (size n : Nat) : Returnless (Text.zeroPadded size n) := by
  have zeros : ∀ c ∈ List.replicate (size - (toString n).length) '0', Text.isNamePart c = true := by
    intro c member
    rw [List.eq_of_mem_replicate member]
    decide
  have start : Returnless (String.ofList (List.replicate (size - (toString n).length) '0')) :=
    returnless_of_parts (by simpa using zeros)
  exact returnless_append.2 ⟨start, returnless_number n⟩

theorem returnless_time (time : Timestamp) : Returnless time.text := by
  have padded := returnless_padded
  have year : Returnless (Timestamp.yearText time.year) := by
    unfold Timestamp.yearText
    simp only
    split_ifs
    · exact returnless_append.2 ⟨.literal rfl, padded _ _⟩
    · exact returnless_append.2 ⟨.literal rfl, padded _ _⟩
    · exact padded _ _
  have offset : Returnless (Timestamp.offsetText time.offset) := by
    have sign : Returnless (if time.offset < 0 then "-" else "+") := by
      split_ifs <;> exact .literal rfl
    simp only [Timestamp.offsetText, returnless_append, sign, padded, and_true, true_and]
    exact .literal rfl
  simp only [Timestamp.text, returnless_append, year, padded, offset, and_true, true_and]
  and_intros <;> exact .literal rfl

theorem returnless_target {header : String} (free : Returnless header) :
    Returnless (includeTarget header) := by
  intro inside
  have trimmed : '\r' ∉ Text.trim header.toList := fun member => free (Text.mem_of_mem_trim member)
  unfold includeTarget at inside
  simp only [String.toList_ofList] at inside
  split at inside
  · exact trimmed inside
  · simp [trimmed] at inside

section Guard

variable {config : Config} (names : config.GivenNames)
include names

theorem guard_opening_returnless : PiecesReturnless ((guardOpening config).map .directive) := by
  have own := returnless_guard names
  unfold guardOpening
  cases config.includeGuard
  all_goals
    simp only [List.map_cons, List.map_nil, pieces_returnless_cons, pieces_returnless_nil,
      Piece.IsReturnless, Directive.texts, List.forall_mem_cons, List.not_mem_nil, false_implies,
      implies_true, own, and_true, true_and]
  exact ⟨.literal rfl, .literal rfl⟩

theorem guard_closing_returnless : PiecesReturnless ((guardClosing config).map .directive) := by
  have own := returnless_guard names
  unfold guardClosing
  cases config.includeGuard
  all_goals
    simp only [List.map_cons, List.map_nil, pieces_returnless_cons, pieces_returnless_nil,
      Piece.IsReturnless, Directive.texts, List.forall_mem_cons, List.not_mem_nil, false_implies,
      implies_true, own, and_true]

end Guard

theorem prologue_returnless {config : Config} (names : config.GivenNames)
    (preamble : ∀ line ∈ config.preamble, Returnless line)
    (includes : ∀ name ∈ config.extraIncludes, Returnless name) (timestamp : Option Timestamp) :
    PiecesReturnless (prologue config timestamp) := by
  have above : PiecesReturnless (config.preamble.map fun line => .code (.line line)) :=
    List.forall_mem_map.2 preamble
  have time : PiecesReturnless (timestamp.toList.map fun time =>
      .code (.line ("// Generated at " ++ time.text))) := by
    intro piece inside
    obtain ⟨time, -, rfl⟩ := List.mem_map.1 inside
    have text : Returnless ("// Generated at " ++ time.text) :=
      returnless_append.2 ⟨.literal rfl, returnless_time time⟩
    exact text
  have standard : PiecesReturnless (standardIncludes.map fun name =>
      .directive (.includeFile ("<" ++ name ++ ">"))) := by
    simp only [standardIncludes, List.map_cons, List.map_nil, pieces_returnless_cons,
      pieces_returnless_nil, Piece.IsReturnless, Directive.texts, List.forall_mem_singleton,
      returnless_append, and_true]
    and_intros <;> exact .literal rfl
  have extra : PiecesReturnless (config.extraIncludes.map fun name =>
      .directive (.includeFile (includeTarget name))) := by
    intro piece inside
    obtain ⟨name, member, rfl⟩ := List.mem_map.1 inside
    have target := returnless_target (includes name member)
    simpa only [Piece.IsReturnless, Directive.texts, List.forall_mem_singleton] using target
  simp only [prologue, pieces_returnless_append, pieces_returnless_cons, pieces_returnless_nil,
    Piece.IsReturnless, Step.IsReturnless, above, time, guard_opening_returnless names, standard,
    extra, returnless_append, generatorVersion, and_true, true_and]
  exact ⟨⟨.literal rfl, .literal rfl⟩, .literal rfl⟩

end Prologue

section Structs

variable {config : Config} {models : List Model} (names : config.GivenNames)
  (free : ∀ model ∈ models, ReturnlessModel model)

include names free

theorem wrappers_returnless_iff :
    StepsReturnless (wrappers config models) ↔
      ∀ model ∈ models, ∀ text ∈ model.definition.descriptions, ¬Text.BreaksLine text.toList := by
  have own := returnless_namespace names
  have opening : Returnless ("namespace " ++ config.namespaceText) :=
    returnless_append.2 ⟨.literal rfl, own⟩
  have brace : Returnless "\x7b" := .literal rfl
  have closing : Returnless ("\x7d // namespace " ++ config.namespaceText) :=
    returnless_append.2 ⟨.literal rfl, own⟩
  have structs : StepsReturnless
      (models.flatMap fun model => (wrapper config model).steps ++ [Step.blank]) ↔
        ∀ model ∈ models, ∀ text ∈ model.definition.descriptions,
          ¬Text.BreaksLine text.toList := by
    rw [steps_returnless_flat_map]
    apply forall₂_congr
    intro model member
    rw [steps_returnless_append, wrapper_returnless_iff names (free model member)]
    exact and_iff_left (List.forall_mem_singleton.2 trivial)
  unfold wrappers
  simp only
  split
  next => exact structs
  next =>
    simp only [steps_returnless_append, steps_returnless_cons, steps_returnless_nil,
      Step.IsReturnless, opening, brace, closing, structs, and_true, true_and]

theorem infos_returnless :
    StepsReturnless (List.flatten ((models.map (enumInfo config)).intersperse [.blank])) := by
  induction models with
  | nil => exact steps_returnless_nil
  | cons model rest ih =>
      simp only [List.forall_mem_cons] at free
      have info := enum_info_returnless names free.1
      cases rest with
      | nil => simpa using info
      | cons next others =>
          have gap : StepsReturnless [.blank] := List.forall_mem_singleton.2 trivial
          exact steps_returnless_append.2 ⟨info, steps_returnless_append.2 ⟨gap, ih free.2⟩⟩

theorem specializations_returnless : StepsReturnless (specializations config models) := by
  have own := returnless_runtime names
  have infos := infos_returnless names free
  unfold specializations
  split
  next => exact steps_returnless_nil
  next =>
    simp only [steps_returnless_append, steps_returnless_cons, steps_returnless_nil,
      Step.IsReturnless, returnless_append, own, infos, and_true]
    exact ⟨⟨.literal rfl, .literal rfl⟩, .literal rfl⟩

theorem plain_text_returnless_iff (preamble : ∀ line ∈ config.preamble, Returnless line)
    (includes : ∀ name ∈ config.extraIncludes, Returnless name)
    (indent : IsIndent config.indent.toList) (timestamp : Option Timestamp) :
    Returnless (plainText config timestamp models) ↔
      ∀ model ∈ models, ∀ text ∈ model.definition.descriptions, ¬Text.BreaksLine text.toList := by
  have above := (prologue_returnless names preamble includes timestamp).steps
  have runtime := (Runtime.runtime_returnless names).steps
  have closing := (guard_closing_returnless names).steps
  have infos := specializations_returnless names free
  have gap : StepsReturnless [Step.blank] := List.forall_mem_singleton.2 trivial
  unfold plainText
  rw [layout_returnless_iff indent (pieces_steps_lined (pieces_lined config models timestamp)),
    ← wrappers_returnless_iff names free]
  have own (steps : List Step) : (steps.map Piece.code).map Piece.step = steps := by
    rw [List.map_map]
    exact List.map_id' steps
  simp only [pieces, List.map_append, List.map_cons, List.map_nil, steps_returnless_append, own,
    above, runtime, closing, infos, and_true, true_and]
  exact and_iff_right gap

end Structs

section Header

variable {config : Config} {definitions : List Definition} {models : List Model}
  {timestamp : Option Timestamp} {header : String}

theorem returnless_of_build_all
    (types : ∀ sizeType ∈ config.sizeTypes, Returnless sizeType.typeName)
    (identifiers : ∀ definition ∈ definitions, Text.isIdentifier definition.name = true ∧
      ∀ name ∈ definition.entryNames, Text.isIdentifier name = true)
    (built : Model.buildAll config definitions = .ok models) :
    ∀ model ∈ models, ReturnlessModel model := by
  intro model member
  obtain ⟨definition, declared, build⟩ := Model.mem_of_build_all built member
  obtain ⟨rfl, registered, -⟩ := Model.build_eq_ok build
  obtain ⟨own, entries⟩ := identifiers _ declared
  exact ⟨returnless_of_identifier own, types _ (List.mem_of_getElem? registered),
    fun entry inside => returnless_of_identifier (entries _ (List.mem_map_of_mem inside))⟩

theorem render_uniform_iff (checked : config.check = .ok ())
    (preamble : ∀ line ∈ config.preamble, Returnless line)
    (includes : ∀ name ∈ config.extraIncludes, Returnless name)
    (free : ∀ model ∈ models, ReturnlessModel model) (timestamp : Option Timestamp)
    (built : Model.buildAll config definitions = .ok models) :
    EndsUniformly config.lineEnding (render config models timestamp).toList ↔
      ∀ definition ∈ definitions, ∀ text ∈ definition.descriptions,
        ¬Text.BreaksLine text.toList := by
  have names := Config.given_names_of_check checked
  have indent := (Config.accepted_of_check checked).blankIndent
  have plain := plain_text_returnless_iff names free preamble includes indent timestamp
  have text : render config models timestamp =
      endLines config.lineEnding (plainText config timestamp models) := rfl
  rw [text, ends_uniformly_iff, plain, ← Model.definitions_of_build_all built, List.forall_mem_map]

theorem render_of_generate (generated : generate config definitions timestamp = .ok header) :
    config.check = .ok () ∧ ∃ models, Model.buildAll config definitions = .ok models ∧
      render config models timestamp = header := by
  unfold generate at generated
  rw [Outcome.check_bind_eq_ok_iff, Outcome.check_bind_eq_ok_iff, Outcome.bind_eq_ok_iff]
    at generated
  obtain ⟨checked, -, models, built, same⟩ := generated
  exact ⟨checked, models, built, Except.ok.inj same⟩

/-- The line ending is the only line break in a header just where every carriage return in a
description ends its line, up to blanks. Names have to be identifiers, and the lines, includes and
type names that the configuration adds have no carriage return. -/
theorem line_endings_uniform_iff (config : Config) (definitions : List Definition)
    (timestamp : Option Timestamp) (header : String)
    (preamble : ∀ line ∈ config.preamble, Returnless line)
    (includes : ∀ name ∈ config.extraIncludes, Returnless name)
    (types : ∀ sizeType ∈ config.sizeTypes, Returnless sizeType.typeName)
    (identifiers : ∀ definition ∈ definitions, Text.isIdentifier definition.name = true ∧
      ∀ name ∈ definition.entryNames, Text.isIdentifier name = true)
    (generated : generate config definitions timestamp = .ok header) :
    EndsUniformly config.lineEnding header.toList ↔
      ∀ definition ∈ definitions, ∀ text ∈ definition.descriptions,
        ¬Text.BreaksLine text.toList := by
  obtain ⟨checked, models, built, rfl⟩ := render_of_generate generated
  have free := returnless_of_build_all types identifiers built
  exact render_uniform_iff checked preamble includes free timestamp built

def quoting : Config :=
  { lineEnding := .crlf, stringTable := .namesAndDescriptions }

def returning : Definition :=
  { name := "Mode", kind := .value, sizeIndex := 4, description := "above\r",
    entries := [⟨"On", 1, "first\r\nsecond\r\t"⟩] }

theorem line_endings_of_returning :
    (∀ sizeType ∈ quoting.sizeTypes, Returnless sizeType.typeName) ∧
      ∃ header, generate quoting [returning] none = .ok header ∧
        EndsUniformly .crlf header.toList := by
  have types : ∀ sizeType ∈ quoting.sizeTypes, Returnless sizeType.typeName := by decide +kernel
  have generated : generate quoting [returning] none = .ok _ := rfl
  have uniform := line_endings_uniform_iff quoting [returning] none _ nofun nofun types
    (by decide +kernel) generated
  exact ⟨types, _, generated, uniform.2 (by decide)⟩

def striding : Definition :=
  { name := "Mode", kind := .value, sizeIndex := 4, entries := [⟨"On", 1, "one\rtwo"⟩] }

/-- Such a line becomes one comment, and what follows the carriage return is outside of it for a
reader that ends lines there. -/
theorem return_kept_in_comment :
    (∀ sizeType ∈ ({} : Config).sizeTypes, Returnless sizeType.typeName) ∧
      Text.isIdentifier striding.name = true ∧
      (∀ name ∈ striding.entryNames, Text.isIdentifier name = true) ∧
      ∃ header, generate {} [striding] none = .ok header ∧
        ¬EndsUniformly .lf header.toList := by
  have types : ∀ sizeType ∈ ({} : Config).sizeTypes, Returnless sizeType.typeName := by
    decide +kernel
  have generated : generate {} [striding] none = .ok _ := rfl
  obtain ⟨checked, models, built, same⟩ := render_of_generate generated
  have free := returnless_of_build_all types (by decide +kernel) built
  have uniform := render_uniform_iff checked nofun nofun free none built
  refine ⟨types, by decide, by decide, _, generated, ?_⟩
  rw [← same]
  exact mt uniform.1 (by decide)

end Header

end EnumHeader.Header
