import EnumHeader.Cpp.Comment
import EnumHeader.Proofs.Cpp.Rows
import Mathlib.Data.List.Forall2

/-!
# Texts with notes between their lines

A note is a line comment on a line of its own that does not draw the next line in. Whatever free
text is turned into comments, each of its lines is laid out as a note. Two lists of steps that
differ in such comments only are laid out as texts that differ in notes only, at any depth and
whatever else stands in the lines.
-/

namespace EnumHeader.Cpp

set_option autoImplicit false

section Lines

/-- The first characters after spaces and tabs are a comment mark. -/
def isCommentLine (line : List Char) : Bool :=
  ['/', '/'].isPrefixOf (line.dropWhile fun c => c == ' ' || c == '\t')

/-- The line is a comment, and no backslash ends it, not even before blanks. -/
structure IsNote (line : List Char) : Prop where
  comment : isCommentLine line = true
  ended : (Text.trimRight line).getLast? ≠ some '\\'

/-- The second list of lines is the first with notes between its lines. -/
inductive Annotates : List (List Char) → List (List Char) → Prop where
  | nil : Annotates [] []
  | same (line : List Char) {plain full : List (List Char)} (rest : Annotates plain full) :
      Annotates (line :: plain) (line :: full)
  | note {line : List Char} {plain full : List (List Char)} (note : IsNote line)
      (rest : Annotates plain full) : Annotates plain (line :: full)

def codeLines (lines : List (List Char)) : List (List Char) :=
  lines.filter fun line => !isCommentLine line

variable {plain full plainLater fullLater : List (List Char)}

theorem Annotates.refl (lines : List (List Char)) : Annotates lines lines := by
  induction lines with
  | nil => exact .nil
  | cons line lines ih => exact .same line ih

theorem Annotates.append (first : Annotates plain full) (second : Annotates plainLater fullLater) :
    Annotates (plain ++ plainLater) (full ++ fullLater) := by
  induction first with
  | nil => exact second
  | same line _ ih => exact .same line ih
  | note note _ ih => exact .note note ih

theorem Annotates.map {change : List Char → List Char}
    (keeps : ∀ line, IsNote line → IsNote (change line)) (annotated : Annotates plain full) :
    Annotates (plain.map change) (full.map change) := by
  induction annotated with
  | nil => exact .nil
  | same line _ ih => exact .same (change line) ih
  | note note _ ih => exact .note (keeps _ note) ih

theorem Annotates.code_lines (annotated : Annotates plain full) :
    codeLines full = codeLines plain := by
  induction annotated with
  | nil => rfl
  | same line _ ih =>
      unfold codeLines at ih ⊢
      rw [List.filter_cons, List.filter_cons, ih]
  | note note _ ih =>
      unfold codeLines at ih ⊢
      rw [List.filter_cons, note.comment]
      exact ih

theorem exists_lines (text : List Char) :
    ∃ first others, (∀ line ∈ first :: others, '\n' ∉ line) ∧
      text ++ ['\n'] = textOf (first :: others) := by
  induction text with
  | nil => exact ⟨[], [], by simp, rfl⟩
  | cons c text ih =>
      obtain ⟨first, others, single, split⟩ := ih
      by_cases feed : c = '\n'
      · subst feed
        exact ⟨[], first :: others, by simpa using single, congrArg ('\n' :: ·) split⟩
      · refine ⟨c :: first, others, ?_, congrArg (c :: ·) split⟩
        simpa [Ne.symm feed] using single

/-- Rows may hold line feeds, so that one row is several lines of the text. -/
theorem lines_of_rows (rows : List (List Char)) :
    ∃ lines, (∀ line ∈ lines, '\n' ∉ line) ∧ textOf rows = textOf lines := by
  induction rows with
  | nil => exact ⟨[], nofun, rfl⟩
  | cons row rest ih =>
      obtain ⟨first, others, single, split⟩ := exists_lines row
      obtain ⟨later, laterSingle, laterSplit⟩ := ih
      refine ⟨first :: others ++ later, ?_, ?_⟩
      · intro line member
        rcases List.mem_append.1 member with inside | after
        · exact single line inside
        · exact laterSingle line after
      · rw [text_of_append, ← split, ← laterSplit]
        rfl

def RowsAnnotate (plain full : List (List Char)) : Prop :=
  ∃ first second, textOf plain = textOf first ∧ textOf full = textOf second ∧
    (∀ line ∈ first ++ second, '\n' ∉ line) ∧ Annotates first second

theorem RowsAnnotate.refl (rows : List (List Char)) : RowsAnnotate rows rows := by
  obtain ⟨lines, single, split⟩ := lines_of_rows rows
  exact ⟨lines, lines, split, split, by simpa using single, .refl lines⟩

theorem RowsAnnotate.append (one : RowsAnnotate plain full)
    (other : RowsAnnotate plainLater fullLater) :
    RowsAnnotate (plain ++ plainLater) (full ++ fullLater) := by
  obtain ⟨first, second, plainText, fullText, single, lines⟩ := one
  obtain ⟨third, fourth, plainText', fullText', single', lines'⟩ := other
  refine ⟨first ++ third, second ++ fourth, ?_, ?_, ?_, lines.append lines'⟩
  · rw [text_of_append, text_of_append, plainText, plainText']
  · rw [text_of_append, text_of_append, fullText, fullText']
  · intro line member
    simp only [List.mem_append] at member single single'
    rcases member with (member | member) | member | member
    · exact single line (.inl member)
    · exact single' line (.inl member)
    · exact single line (.inr member)
    · exact single' line (.inr member)

theorem RowsAnnotate.of_notes {rows : List (List Char)} (single : ∀ row ∈ rows, '\n' ∉ row)
    (notes : ∀ row ∈ rows, IsNote row) : RowsAnnotate [] rows := by
  refine ⟨[], rows, rfl, rfl, by simpa using single, ?_⟩
  induction rows with
  | nil => exact .nil
  | cons row rest ih =>
      simp only [List.forall_mem_cons] at single notes
      exact .note notes.1 (ih single.2 notes.2)

end Lines

section Comments

/-- One line that is a comment from its first character on and leaves the next line alone. -/
structure IsComment (text : String) : Prop where
  marked : ['/', '/'] <+: text.toList
  single : '\n' ∉ text.toList
  ended : ∃ body last, text.toList = body ++ [last] ∧ Text.isBlank last = false ∧ last ≠ '\\'

theorem trim_right_of_last {body : List Char} {last : Char} (visible : Text.isBlank last = false) :
    Text.trimRight (body ++ [last]) = body ++ [last] := by
  simp [Text.trimRight, visible]

theorem trim_right_of_blank {line : List Char} {c : Char} (blank : Text.isBlank c = true) :
    Text.trimRight (line ++ [c]) = Text.trimRight line := by
  simp [Text.trimRight, blank]

theorem trim_right_eq_nil_or (line : List Char) :
    Text.trimRight line = [] ∨
      ∃ body last, Text.trimRight line = body ++ [last] ∧ Text.isBlank last = false := by
  unfold Text.trimRight
  cases kept : line.reverse.dropWhile Text.isBlank with
  | nil => exact .inl rfl
  | cons last rest =>
      have visible := List.head_dropWhile_not (p := Text.isBlank) (l := line.reverse)
        (by simp [kept])
      exact .inr ⟨rest.reverse, last, by simp, by simpa [kept] using visible⟩

theorem comment_of_line {line : List Char} (single : '\n' ∉ line) :
    IsComment (commentLine line) := by
  have within : '\n' ∉ Text.trimRight line := by
    intro member
    have inside := List.dropWhile_subset _ (List.mem_reverse.1 member)
    exact single (List.mem_reverse.1 inside)
  unfold commentLine
  rcases trim_right_eq_nil_or line with nothing | ⟨body, last, kept, visible⟩
  · -- a blank line leaves the mark alone
    rw [nothing]
    exact ⟨⟨[], rfl⟩, by decide, ['/'], '/', rfl, by decide, by decide⟩
  · have filled : (body ++ [last]).isEmpty = false := by simp
    have ends : (body ++ [last]).getLast? = some last := by simp
    rw [kept] at within ⊢
    simp only [filled, ends, Bool.false_eq_true, if_false, Option.some.injEq]
    split
    next closed =>
      -- a second mark keeps the backslash from the end of the line
      have chars : ("// " ++ String.ofList (body ++ [last]) ++ " //").toList =
          ['/', '/', ' '] ++ body ++ [last] ++ [' ', '/'] ++ ['/'] := by simp
      refine ⟨?_, ?_, _, '/', chars, by decide, by decide⟩
      · rw [chars]
        exact ⟨[' '] ++ body ++ [last] ++ [' ', '/', '/'], by simp⟩
      · rw [chars]
        simpa using within
    next unclosed =>
      have chars : ("// " ++ String.ofList (body ++ [last])).toList =
          ['/', '/', ' '] ++ body ++ [last] := by simp
      refine ⟨?_, ?_, _, last, chars, visible, unclosed⟩
      · rw [chars]
        exact ⟨[' '] ++ body ++ [last], by simp⟩
      · rw [chars]
        simpa using within

theorem comment_lines_are_comments (text : String) :
    ∀ line ∈ commentLines text, IsComment line := by
  intro line member
  obtain ⟨chars, inside, rfl⟩ := List.mem_map.1 member
  exact comment_of_line (Text.newline_not_mem_of_mem_lines inside)

theorem note_of_comment {margin : List Char} {text : String} (indent : IsIndent margin)
    (comment : IsComment text) : IsNote (margin ++ text.toList) := by
  obtain ⟨marked, -, body, last, chars, visible, unclosed⟩ := comment
  constructor
  · have skipped : (margin ++ text.toList).dropWhile (fun c => c == ' ' || c == '\t') =
        text.toList.dropWhile fun c => c == ' ' || c == '\t' :=
      List.dropWhile_append_of_pos (by simpa [IsIndent] using indent)
    obtain ⟨rest, start⟩ := marked
    rw [isCommentLine, skipped, ← start]
    rfl
  · rw [chars, ← List.append_assoc, trim_right_of_last visible]
    simpa using unclosed

theorem note_of_return {line : List Char} (note : IsNote line) : IsNote (line ++ ['\r']) := by
  constructor
  · obtain ⟨rest, start⟩ := List.isPrefixOf_iff_prefix.1 note.comment
    unfold isCommentLine
    rw [List.dropWhile_append, ← start]
    rfl
  · rw [trim_right_of_blank (by decide)]
    exact note.ended

end Comments

section Steps

inductive Step.Annotates : Step → Step → Prop where
  | same (step : Step) (lined : step.IsLined) : Step.Annotates step step
  | comments (comments : List String) (marked : ∀ comment ∈ comments, IsComment comment) :
      Step.Annotates (.lines []) (.lines comments)

theorem Step.Annotates.lined {first second : Step} (steps : first.Annotates second) :
    first.IsLined ∧ second.IsLined := by
  cases steps with
  | same step lined => exact ⟨lined, lined⟩
  | comments comments marked => exact ⟨trivial, trivial⟩

variable {unit : String} (indent : IsIndent unit.toList)
include indent

theorem row_of_comment {text : String} (comment : IsComment text) (depth : Nat) :
    '\n' ∉ rowAt unit depth text ∧ IsNote (rowAt unit depth text) := by
  have filled : text.isEmpty = false := by
    obtain ⟨rest, start⟩ := comment.marked
    by_contra empty
    obtain rfl : text = "" := by simpa using empty
    cases start
  have margin := indent_margin indent depth
  unfold rowAt
  rw [filled]
  refine ⟨fun inside => ?_, note_of_comment margin comment⟩
  rcases List.mem_append.1 inside with blank | within
  · exact absurd (margin _ blank) (by decide)
  · exact comment.single within

theorem rows_annotate {first second : List Step}
    (steps : List.Forall₂ Step.Annotates first second) (depth : Nat) :
    RowsAnnotate (rowsFrom unit depth first) (rowsFrom unit depth second) := by
  induction steps generalizing depth with
  | nil => exact .refl []
  | cons step _ ih =>
      cases step with
      | same step lined => exact (RowsAnnotate.refl _).append (ih _)
      | comments comments marked =>
          -- the other text has no lines here, and neither text changes its depth
          have rows : RowsAnnotate [] (comments.map (rowAt unit depth)) := by
            apply RowsAnnotate.of_notes
            · simpa using fun text member => (row_of_comment indent (marked text member) depth).1
            · simpa using fun text member => (row_of_comment indent (marked text member) depth).2
          exact rows.append (ih depth)

theorem layout_annotates {first second : List Step}
    (steps : List.Forall₂ Step.Annotates first second) :
    ∃ plain full, (layout unit first).toList = textOf plain ∧
      (layout unit second).toList = textOf full ∧ (∀ line ∈ plain ++ full, '\n' ∉ line) ∧
        Annotates plain full := by
  have lined : (∀ step ∈ first, step.IsLined) ∧ ∀ step ∈ second, step.IsLined := by
    induction steps with
    | nil => simp
    | cons step _ ih =>
        simp only [List.forall_mem_cons]
        exact ⟨⟨step.lined.1, ih.1⟩, step.lined.2, ih.2⟩
  rw [layout_eq_rows lined.1, layout_eq_rows lined.2]
  exact rows_annotate indent steps 0

end Steps

end EnumHeader.Cpp
