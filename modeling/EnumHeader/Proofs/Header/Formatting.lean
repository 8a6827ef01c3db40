import EnumHeader.Proofs.Config.Accepted
import EnumHeader.Proofs.Cpp.Lined
import EnumHeader.Proofs.Cpp.Margins

/-!
# Formatting

The indent and the line ending of a configuration change nothing but whitespace. Whether a header is
generated does not depend on them; carriage returns stand before line feeds alone and can be left
out again; and the lines differ in their margins, whatever the texts in them are.
-/

namespace EnumHeader.Header

set_option autoImplicit false

open Cpp (bareLines)

section Endings

def joinReturns : List Char → List Char
  | '\r' :: '\n' :: rest => '\n' :: joinReturns rest
  | c :: rest => c :: joinReturns rest
  | [] => []

/-- Before each line feed stands a carriage return. -/
def ReturnsBeforeFeeds (text : List Char) : Prop :=
  ∀ before after, text = before ++ '\n' :: after → before.getLast? = some '\r'

def returned (c : Char) : List Char :=
  if c = '\n' then ['\r', '\n'] else [c]

theorem returned_of_other {c : Char} (other : c ≠ '\n') (rest : List Char) :
    (c :: rest).flatMap returned = c :: rest.flatMap returned := by
  simp [returned, other]

theorem join_cons {c : Char} {rest : List Char} (head : rest.head? ≠ some '\n') :
    joinReturns (c :: rest) = c :: joinReturns rest := by
  cases rest with
  | nil => rw [joinReturns]; nofun
  | cons next others =>
      rw [joinReturns]
      rintro _ - same
      exact head (by simp_all)

/-- A line feed never comes first, because a carriage return is put before it. -/
theorem head_returned (text : List Char) : (text.flatMap returned).head? ≠ some '\n' := by
  cases text with
  | nil => simp
  | cons c rest =>
      by_cases feed : c = '\n'
      · simp [returned, feed]
      · simp [returned, feed]

/-- Also where the text has carriage returns of its own. -/
theorem join_returned (text : List Char) : joinReturns (text.flatMap returned) = text := by
  induction text with
  | nil => rfl
  | cons c rest ih =>
      by_cases feed : c = '\n'
      · subst feed
        exact congrArg ('\n' :: ·) ih
      · rw [returned_of_other feed, join_cons (head_returned rest), ih]

theorem returns_before_feeds (text : List Char) : ReturnsBeforeFeeds (text.flatMap returned) := by
  induction text with
  | nil => simp [ReturnsBeforeFeeds]
  | cons c rest ih =>
      intro before after split
      by_cases feed : c = '\n'
      · subst feed
        change '\r' :: '\n' :: rest.flatMap returned = before ++ '\n' :: after at split
        match before with
        | [] => cases split
        | [first] =>
            obtain ⟨rfl, -⟩ := List.cons.inj split
            rfl
        | first :: second :: others =>
            simp only [List.cons_append, List.cons.injEq] at split
            simp [List.getLast?_cons, ih others after split.2.2]
      · rw [returned_of_other feed] at split
        match before with
        | [] => exact (feed (List.cons.inj split).1).elim
        | first :: others =>
            simp only [List.cons_append, List.cons.injEq] at split
            simp [List.getLast?_cons, ih others after split.2]

end Endings

section Generation

variable (config : Config) (definitions : List Definition) (timestamp : Option Timestamp)

/-- The text of a header whatever its line ending, with line feeds alone. -/
def plainText (models : List Model) : String :=
  Cpp.layout config.indent ((pieces config models timestamp).map Cpp.Piece.step)

theorem generate_of_check (checked : config.check = .ok ()) :
    generate config definitions timestamp =
      (Validation.validate config definitions >>= fun _ => Model.buildAll config definitions).map
        (render config · timestamp) := by
  unfold generate
  rw [checked]
  cases Validation.validate config definitions with
  | error failure => rfl
  | ok _ => rfl

structure FormatsAs (plain : String) : Prop where
  withFeeds : generate { config with lineEnding := .lf } definitions timestamp = .ok plain
  formatted : ∃ text, generate config definitions timestamp = .ok text ∧
    (config.lineEnding = .crlf →
      ReturnsBeforeFeeds text.toList ∧ String.ofList (joinReturns text.toList) = plain)

variable {config definitions timestamp}

theorem formats_as_plain {models : List Model} (checked : config.check = .ok ())
    (built : (Validation.validate config definitions >>=
      fun _ => Model.buildAll config definitions) = .ok models) :
    FormatsAs config definitions timestamp (plainText config timestamp models) := by
  have plain : Config.check { config with lineEnding := .lf } = .ok () := checked
  constructor
  · rw [generate_of_check _ definitions timestamp plain]
    exact congrArg (Except.map _) built
  · rw [generate_of_check _ definitions timestamp checked, built]
    refine ⟨_, rfl, fun ending => ?_⟩
    have text : (render config models timestamp).toList =
        (plainText config timestamp models).toList.flatMap returned := by
      unfold render
      rw [ending]
      exact String.toList_ofList
    rw [text, join_returned, String.ofList_toList]
    exact ⟨returns_before_feeds _, rfl⟩

/-- The indent and the line ending change nothing but whitespace. -/
theorem formatting_changes_whitespace {first second : Config} (firstChecked : first.check = .ok ())
    (secondChecked : second.check = .ok ())
    (same : { first with indent := second.indent, lineEnding := second.lineEnding } = second)
    (definitions : List Definition) (timestamp : Option Timestamp) :
    (∃ failure, generate first definitions timestamp = .error failure ∧
        generate second definitions timestamp = .error failure) ∨
      ∃ firstPlain secondPlain, FormatsAs first definitions timestamp firstPlain ∧
        FormatsAs second definitions timestamp secondPlain ∧
          bareLines firstPlain = bareLines secondPlain := by
  -- neither the definitions nor the steps depend on the two settings
  have prepared : (Validation.validate first definitions >>=
      fun _ => Model.buildAll first definitions) =
        (Validation.validate second definitions >>= fun _ => Model.buildAll second definitions) := by
    rw [← same]
    rfl
  have written (models : List Model) :
      pieces first models timestamp = pieces second models timestamp := by
    rw [← same]
    rfl
  cases built : (Validation.validate first definitions >>=
      fun _ => Model.buildAll first definitions) with
  | error failure =>
      left
      refine ⟨failure, ?_, ?_⟩
      · rw [generate_of_check _ definitions timestamp firstChecked, built]
        rfl
      · rw [generate_of_check _ definitions timestamp secondChecked, ← prepared, built]
        rfl
  | ok models =>
      right
      refine ⟨_, _, formats_as_plain firstChecked built,
        formats_as_plain secondChecked (prepared ▸ built), ?_⟩
      have lined := Cpp.pieces_steps_lined (pieces_lined first models timestamp)
      unfold plainText
      rw [← written models,
        Cpp.bare_lines_of_layout lined (Config.accepted_of_check firstChecked).blankIndent,
        Cpp.bare_lines_of_layout lined (Config.accepted_of_check secondChecked).blankIndent]

end Generation

section Mixed

def mixed : Config :=
  { preamble := ["// left\r", "\t// right\n  // below", ""], indent := "  ",
    stringTable := .namesAndDescriptions }

def striped : Definition :=
  { name := "Mode", kind := .value, sizeIndex := 4, entries := [⟨"On", 1, "first\r\n\tsecond"⟩] }

theorem formatting_of_mixed_lines :
    (∃ header, generate mixed [striped] none = .ok header) ∧
      ((∃ failure, generate mixed [striped] none = .error failure ∧
          generate { mixed with indent := "\t", lineEnding := .crlf } [striped] none =
            .error failure) ∨
        ∃ firstPlain secondPlain, FormatsAs mixed [striped] none firstPlain ∧
          FormatsAs { mixed with indent := "\t", lineEnding := .crlf } [striped] none secondPlain ∧
            bareLines firstPlain = bareLines secondPlain) :=
  ⟨⟨_, rfl⟩, formatting_changes_whitespace rfl rfl rfl [striped] none⟩

end Mixed

end EnumHeader.Header
