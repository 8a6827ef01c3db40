import EnumHeader.Proofs.Cpp.Annotation
import EnumHeader.Proofs.Cpp.Nesting.Lines
import EnumHeader.Proofs.Header.Ending

/-!
# Lines without their margins

The same steps laid out with two indents give texts whose lines differ in the blanks before them
alone, also where the text of a step is several lines.
-/

namespace EnumHeader.Cpp

set_option autoImplicit false

open Header (linesOf)
open Nesting (Indented indented_rows isIndentChar)

def withoutMargin (line : List Char) : List Char :=
  line.dropWhile isIndentChar

def bareLines (text : String) : List (List Char) :=
  (linesOf text).map withoutMargin

theorem without_margin_append {margin : List Char} (indent : IsIndent margin) (line : List Char) :
    withoutMargin (margin ++ line) = withoutMargin line :=
  List.dropWhile_append_of_pos (by simpa [IsIndent, isIndentChar] using indent)

/-- Rows with margins become lines of which only the first of each row can have one more than the
lines of the texts in the rows. -/
theorem lines_of_indented {rows : List (List Char)} {texts : List String}
    (indented : List.Forall₂ Indented rows texts) :
    ∃ lines bare, (∀ line ∈ lines, '\n' ∉ line) ∧ (∀ line ∈ bare, '\n' ∉ line) ∧
      textOf rows = textOf lines ∧ textOf (texts.map String.toList) = textOf bare ∧
        lines.map withoutMargin = bare.map withoutMargin := by
  induction indented with
  | nil => exact ⟨[], [], nofun, nofun, rfl, rfl, rfl⟩
  | @cons row text rows texts drawn _ ih =>
      obtain ⟨margin, indent, rfl⟩ := drawn
      obtain ⟨lines, bare, single, bareSingle, split, bareSplit, same⟩ := ih
      obtain ⟨first, others, alone, text⟩ := exists_lines text.toList
      simp only [List.forall_mem_cons] at alone
      have blank : '\n' ∉ margin := fun member => absurd (indent _ member) (by decide)
      have start : '\n' ∉ margin ++ first := by simp [blank, alone.1]
      refine ⟨(margin ++ first) :: (others ++ lines), first :: (others ++ bare),
        List.forall_mem_cons.2 ⟨start, List.forall_mem_append.2 ⟨alone.2, single⟩⟩,
        List.forall_mem_cons.2 ⟨alone.1, List.forall_mem_append.2 ⟨alone.2, bareSingle⟩⟩,
        ?_, ?_, ?_⟩
      · calc textOf ((margin ++ _) :: rows)
          _ = margin ++ (textOf (first :: others) ++ textOf rows) := by
              rw [← text]
              simp [textOf]
          _ = textOf ((margin ++ first) :: (others ++ lines)) := by
              rw [split, ← text_of_append]
              simp [textOf]
      · calc textOf (_ :: texts.map String.toList)
          _ = textOf (first :: others) ++ textOf (texts.map String.toList) := by
              rw [← text]
              simp [textOf]
          _ = textOf (first :: (others ++ bare)) := by
              rw [bareSplit, ← text_of_append]
              rfl
      · simp only [List.map_cons, List.map_append, without_margin_append indent, same]

theorem bare_lines_of_layout {steps : List Step} (lined : ∀ step ∈ steps, step.IsLined)
    {unit : String} (indent : IsIndent unit.toList) :
    bareLines (layout unit steps) =
      bareLines (String.ofList (textOf ((steps.flatMap Step.written).map String.toList))) := by
  obtain ⟨lines, bare, single, bareSingle, split, bareSplit, same⟩ :=
    lines_of_indented (indented_rows indent 0 steps)
  unfold bareLines linesOf
  rw [layout_eq_rows lined, split, split_text_of single, String.toList_ofList, bareSplit,
    split_text_of bareSingle, List.map_append, List.map_append, same]

end EnumHeader.Cpp
