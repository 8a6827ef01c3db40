import EnumHeader.Proofs.Cpp.Rows
import EnumHeader.Proofs.Header.Ending
import Mathlib.Data.List.Infix

/-!
# Indentation composes

Steps that never go back beyond the depth at which they start write the same rows at any depth, with
the margin of that depth in front of each row that is not empty. As long as the indent is part of a
line, the rows are the lines of the text, and the text at some depth is the text at the left margin
with its lines moved to the right. A step back from the left margin has no effect, which is why
steps that go back further than they came do not move as a whole.
-/

namespace EnumHeader.Cpp

set_option autoImplicit false

open Header (linesOf)

section Depths

def Step.shift : Step → Int
  | .indent | .opening _ => 1
  | .dedent | .closing _ => -1
  | _ => 0

def netShift : List Step → Int
  | [] => 0
  | step :: rest => step.shift + netShift rest

/-- The steps start `room` levels above a depth, and none of them goes back beyond it. -/
def StaysAbove (room : Nat) (steps : List Step) : Prop :=
  ∀ before ∈ steps.inits, 0 ≤ room + netShift before

instance (room : Nat) (steps : List Step) : Decidable (StaysAbove room steps) :=
  inferInstanceAs (Decidable (∀ before ∈ steps.inits, 0 ≤ room + netShift before))

variable {step : Step} {steps : List Step} {room : Nat}

theorem Step.depth_after_of_room (above : 0 ≤ room + step.shift) (depth : Nat) :
    (step.depthAfter (depth + room) : Int) = depth + room + step.shift := by
  cases step <;> simp only [depthAfter, shift] at above ⊢ <;> omega

theorem Step.depth_after_deeper (above : 0 ≤ room + step.shift) (depth : Nat) :
    step.depthAfter (depth + room) = depth + step.depthAfter room := by
  have deeper := step.depth_after_of_room above depth
  have alone := step.depth_after_of_room above 0
  rw [Nat.zero_add] at alone
  omega

theorem StaysAbove.first (above : StaysAbove room (step :: steps)) : 0 ≤ room + step.shift := by
  have start : [step] <+: step :: steps := (List.prefix_cons_inj step).2 List.nil_prefix
  simpa [netShift] using above [step] ((List.mem_inits _ _).2 start)

theorem StaysAbove.rest (above : StaysAbove room (step :: steps)) :
    StaysAbove (step.depthAfter room) steps := by
  intro before member
  have start : step :: before <+: step :: steps :=
    (List.prefix_cons_inj step).2 ((List.mem_inits _ _).1 member)
  have whole := above (step :: before) ((List.mem_inits _ _).2 start)
  have next := step.depth_after_of_room above.first 0
  simp only [netShift, Nat.zero_add] at whole next
  omega

theorem depth_after_steps (above : StaysAbove room steps) (depth : Nat) :
    ((steps.foldl Step.depthAfter (depth + room) : Nat) : Int) = depth + room + netShift steps := by
  induction steps generalizing room with
  | nil => simp [netShift]
  | cons step rest ih =>
      rw [List.foldl_cons, step.depth_after_deeper above.first, ih above.rest]
      have alone := step.depth_after_of_room above.first 0
      simp only [netShift, Nat.zero_add] at alone ⊢
      omega

end Depths

section Rows

def indentLine (margin line : List Char) : List Char :=
  if line.isEmpty then [] else margin ++ line

variable {unit : String} {step : Step} {steps : List Step} {room : Nat}

theorem row_at_deeper (depth room : Nat) (text : String) :
    rowAt unit (depth + room) text =
      indentLine (List.replicate depth unit.toList).flatten (rowAt unit room text) := by
  unfold rowAt
  split
  next => rfl
  next filled =>
    have nonempty : text.toList ≠ [] := by simpa using filled
    rw [indentLine, if_neg (by simp [nonempty]), List.replicate_add, List.flatten_append,
      List.append_assoc]

theorem rows_deeper (above : 0 ≤ room + step.shift) (depth : Nat) :
    step.rows unit (depth + room) =
      (step.rows unit room).map (indentLine (List.replicate depth unit.toList).flatten) := by
  have row (room : Nat) (text : String) : rowAt unit (depth + room) text = indentLine _ _ :=
    row_at_deeper depth room text
  cases step with
  | closing closer =>
      have back : depth + room - 1 = depth + (room - 1) := by
        simp only [Step.shift] at above
        omega
      simp only [Step.rows, back, row, List.map_cons, List.map_nil]
  | function signature statement =>
      simp only [Step.rows, Nat.add_assoc, row, List.map_cons, List.map_nil]
  | lines texts =>
      simp only [Step.rows, List.map_map]
      exact List.map_congr_left fun text _ => row room text
  | line text | opening header => simp only [Step.rows, row, List.map_cons, List.map_nil]
  | blank | indent | dedent | raw text => rfl

/-- The invariant is that the steps which are left stay above the depth that both runs share. -/
theorem rows_from_deeper (above : StaysAbove room steps) (depth : Nat) :
    rowsFrom unit (depth + room) steps =
      (rowsFrom unit room steps).map
        (indentLine (List.replicate depth unit.toList).flatten) := by
  induction steps generalizing room with
  | nil => rfl
  | cons step rest ih =>
      rw [rowsFrom, rowsFrom, List.map_append, rows_deeper above.first,
        step.depth_after_deeper above.first, ih above.rest]

theorem feedless_rows {rows : List (List Char)} {texts : List String} (narrow : '\n' ∉ unit.toList)
    (single : ∀ text ∈ texts, '\n' ∉ text.toList) (drawn : List.Forall₂ (IsRowOf unit) rows texts) :
    ∀ row ∈ rows, '\n' ∉ row := by
  induction drawn with
  | nil => exact nofun
  | cons row _ ih =>
      obtain ⟨depth, rfl⟩ := row
      simp only [List.forall_mem_cons] at single ⊢
      exact ⟨mt (mem_row_iff narrow depth _).1 single.1, ih single.2⟩

end Rows

section Texts

def indented (margin text : String) : String :=
  String.ofList (['\n'].intercalate ((linesOf text).map (indentLine margin.toList)))

theorem indented_text_of (margin : String) {rows : List (List Char)}
    (single : ∀ row ∈ rows, '\n' ∉ row) :
    (indented margin (String.ofList (textOf rows))).toList =
      textOf (rows.map (indentLine margin.toList)) := by
  have last : indentLine margin.toList [] = [] := rfl
  unfold indented linesOf
  rw [String.toList_ofList, String.toList_ofList, split_text_of single, List.map_append,
    List.map_singleton, last, text_of_eq_intercalate]

/-- What steps add to a page is what they add at the left margin, moved to the depth of the page. -/
structure Page.Composes (page : Page) (steps : List Step) : Prop where
  depth : (page.applyAll steps).depth =
    page.depth + (Page.applyAll ⟨page.indentUnit, 0, ""⟩ steps).depth
  atMargin : (layout page.indentUnit steps).toList = textOf (rowsFrom page.indentUnit 0 steps)
  /-- The lines as they are written, whatever the indent looks like. -/
  rows : (page.applyAll steps).text.toList = page.text.toList ++
    textOf ((rowsFrom page.indentUnit 0 steps).map (indentLine page.margin.toList))
  empty : List.Forall₂ (fun row text => row = [] ↔ text = "")
    ((rowsFrom page.indentUnit 0 steps).map (indentLine page.margin.toList))
    (steps.flatMap Step.written)
  /-- The lines as they are found in the text. -/
  text : '\n' ∉ page.indentUnit.toList →
    (page.applyAll steps).text = page.text ++ indented page.margin (layout page.indentUnit steps)

theorem indentation_composes (page : Page) {steps : List Step}
    (lined : ∀ step ∈ steps, step.IsLined)
    (single : ∀ text ∈ steps.flatMap Step.written, '\n' ∉ text.toList)
    (above : StaysAbove 0 steps) : page.Composes steps := by
  have added := page.adds_steps lined
  have start : (Page.applyAll ⟨page.indentUnit, 0, ""⟩ steps).depth =
      steps.foldl Step.depthAfter 0 := ((Page.mk page.indentUnit 0 "").adds_steps lined).depth
  have moved : rowsFrom page.indentUnit page.depth steps =
      (rowsFrom page.indentUnit 0 steps).map (indentLine page.margin.toList) := by
    rw [page.margin_chars]
    exact rows_from_deeper above page.depth
  have whole : (page.applyAll steps).text.toList = page.text.toList ++
      textOf ((rowsFrom page.indentUnit 0 steps).map (indentLine page.margin.toList)) := by
    rw [added.text, moved]
  refine ⟨?_, layout_eq_rows lined, whole, ?_, ?_⟩
  · have deeper := depth_after_steps above page.depth
    have alone := depth_after_steps above 0
    rw [added.depth, start]
    simp only [Nat.add_zero] at deeper alone
    omega
  · rw [← moved]
    refine (rows_of_written page.depth steps).imp ?_
    rintro _ text ⟨depth, rfl⟩
    exact empty_row_iff depth text
  · intro narrow
    have alone := feedless_rows narrow single (rows_of_written 0 steps)
    have laidOut : layout page.indentUnit steps =
        String.ofList (textOf (rowsFrom page.indentUnit 0 steps)) := by
      rw [← layout_eq_rows lined, String.ofList_toList]
    rw [← String.toList_inj, whole, String.toList_append, laidOut, indented_text_of _ alone]

section Class

def classSteps : List Step :=
  [.opening "struct A", .lines ["int x;", ""], .blank, .function "int f()" "return 1;", .line "",
    .closing "\x7d;", .indent, .dedent]

theorem class_composes :
    (∀ step ∈ classSteps, step.IsLined) ∧
      (∀ text ∈ classSteps.flatMap Step.written, '\n' ∉ text.toList) ∧ StaysAbove 0 classSteps ∧
        '\n' ∉ "\t".toList ∧ Page.Composes ⟨"\t", 2, "\t\tint y;\n"⟩ classSteps :=
  ⟨by decide, by decide, by decide, by decide,
    indentation_composes _ (by decide) (by decide) (by decide)⟩

/-- A step back from the left margin is lost there only. -/
example : ¬StaysAbove 0 [.dedent, .indent] ∧
    (Page.applyAll ⟨"\t", 1, ""⟩ [.dedent, .indent, .line "x"]).text = "\tx\n" ∧
      layout "\t" [.dedent, .indent, .line "x"] = "\tx\n" := by
  decide +kernel

def brokenPage : Page :=
  ⟨" \n", 1, ""⟩

def nestedSteps : List Step :=
  [.indent, .line "x"]

/-- Each indent in front of the `x` is a line of its own that no step writes. At the left margin
there is one of them and on the page there are two, but the former text has two lines to move. -/
theorem broken_indent_is_not_moved :
    (∀ step ∈ nestedSteps, step.IsLined) ∧
      (∀ text ∈ nestedSteps.flatMap Step.written, '\n' ∉ text.toList) ∧ StaysAbove 0 nestedSteps ∧
        (brokenPage.applyAll nestedSteps).text = " \n \nx\n" ∧
          layout brokenPage.indentUnit nestedSteps = " \nx\n" ∧
            (brokenPage.applyAll nestedSteps).text ≠ brokenPage.text ++
              indented brokenPage.margin (layout brokenPage.indentUnit nestedSteps) := by
  decide +kernel

end Class

end Texts

end EnumHeader.Cpp
