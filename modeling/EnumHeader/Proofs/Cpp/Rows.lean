import EnumHeader.Cpp.Layout
import EnumHeader.Proofs.Cpp.Reading.Lines
import Mathlib.Data.List.Forall2

/-!
# The rows of a laid out text

Steps that write whole lines are laid out as rows: every line with its margin, the empty ones
without. Which rows a step writes depends on the depth at which it stands and on nothing before it.
-/

namespace EnumHeader.Cpp

set_option autoImplicit false

def IsIndent (text : List Char) : Prop :=
  ∀ c ∈ text, c = ' ' ∨ c = '\t'

def textOf (lines : List (List Char)) : List Char :=
  lines.flatMap (· ++ ['\n'])

theorem text_of_append (first second : List (List Char)) :
    textOf (first ++ second) = textOf first ++ textOf second :=
  List.flatMap_append

theorem text_of_eq_intercalate (lines : List (List Char)) :
    textOf lines = ['\n'].intercalate (lines ++ [[]]) := by
  induction lines with
  | nil => rfl
  | cons line rest ih =>
      obtain ⟨next, others, found⟩ : ∃ next others, rest ++ [[]] = next :: others :=
        List.exists_cons_of_ne_nil (by simp)
      rw [List.cons_append, found, List.intercalate_cons_cons, ← found, ← ih]
      simp [textOf]

theorem split_text_of {lines : List (List Char)} (single : ∀ line ∈ lines, '\n' ∉ line) :
    (textOf lines).splitOn '\n' = lines ++ [[]] := by
  rw [text_of_eq_intercalate]
  apply List.splitOn_intercalate
  · intro line member
    rcases List.mem_append.1 member with inside | last
    · exact single line inside
    · simp [List.mem_singleton.1 last]
  · simp

section Rows

variable (unit : String)

def rowAt (depth : Nat) (text : String) : List Char :=
  if text.isEmpty then [] else (List.replicate depth unit.toList).flatten ++ text.toList

theorem mem_of_margin {unit : List Char} {depth : Nat} {c : Char}
    (inside : c ∈ (List.replicate depth unit).flatten) : c ∈ unit := by
  obtain ⟨_, repeated, member⟩ := List.mem_flatten.1 inside
  exact List.eq_of_mem_replicate repeated ▸ member

theorem indent_margin {unit : String} (indent : IsIndent unit.toList) (depth : Nat) :
    IsIndent (List.replicate depth unit.toList).flatten := by
  intro c member
  exact indent c (mem_of_margin member)

/-- A character that the indent does not have is in a row only as part of the line. -/
theorem mem_row_iff {unit : String} {c : Char} (absent : c ∉ unit.toList) (depth : Nat)
    (text : String) : c ∈ rowAt unit depth text ↔ c ∈ text.toList := by
  have margin : c ∉ (List.replicate depth unit.toList).flatten := mt mem_of_margin absent
  unfold rowAt
  split
  next empty =>
    obtain rfl : text = "" := by simpa using empty
    rfl
  next => simp only [List.mem_append, margin, false_or]

theorem empty_row_iff {unit : String} (depth : Nat) (text : String) :
    rowAt unit depth text = [] ↔ text = "" := by
  unfold rowAt
  split
  next empty => simpa using empty
  next filled =>
    have nonempty : text ≠ "" := by simpa using filled
    simp [nonempty]

namespace Step

def depthAfter (depth : Nat) : Step → Nat
  | .indent | .opening _ => depth + 1
  | .dedent | .closing _ => depth - 1
  | _ => depth

def rows (depth : Nat) : Step → List (List Char)
  | .line text => [rowAt unit depth text]
  | .lines texts => texts.map (rowAt unit depth)
  | .blank => [[]]
  | .indent | .dedent | .raw _ => []
  | .opening header => [rowAt unit depth header, rowAt unit depth "\x7b"]
  | .closing closer => [rowAt unit (depth - 1) closer]
  | .function signature statement =>
      [rowAt unit depth signature, rowAt unit depth "\x7b", rowAt unit (depth + 1) statement,
        rowAt unit depth "\x7d"]

end Step

def rowsFrom (depth : Nat) : List Step → List (List Char)
  | [] => []
  | step :: rest => step.rows unit depth ++ rowsFrom (step.depthAfter depth) rest

theorem rows_from_append (depth : Nat) (first second : List Step) :
    rowsFrom unit depth (first ++ second) =
      rowsFrom unit depth first ++ rowsFrom unit (first.foldl Step.depthAfter depth) second := by
  induction first generalizing depth with
  | nil => rfl
  | cons step rest ih =>
      simp only [List.cons_append, rowsFrom, List.foldl_cons, ih, List.append_assoc]

variable {unit}

def IsRowOf (unit : String) (row : List Char) (text : String) : Prop :=
  ∃ depth, row = rowAt unit depth text

theorem rows_of_written (depth : Nat) (steps : List Step) :
    List.Forall₂ (IsRowOf unit) (rowsFrom unit depth steps) (steps.flatMap Step.written) := by
  have row (depth : Nat) (text : String) : IsRowOf unit (rowAt unit depth text) text := ⟨depth, rfl⟩
  have all (depth : Nat) (texts : List String) :
      List.Forall₂ (IsRowOf unit) (texts.map (rowAt unit depth)) texts := by
    induction texts with
    | nil => exact .nil
    | cons text rest ih => exact .cons (row depth text) ih
  induction steps generalizing depth with
  | nil => exact .nil
  | cons step rest ih =>
      apply List.rel_append _ (ih _)
      cases step with
      | line text => exact .cons (row _ _) .nil
      | lines texts => exact all depth texts
      | blank => exact .cons (row 0 "") .nil
      | indent | dedent | raw _ => exact .nil
      | opening header => exact .cons (row _ _) (.cons (row _ _) .nil)
      | closing closer => exact .cons (row _ _) .nil
      | function signature statement =>
          exact .cons (row _ _) (.cons (row _ _) (.cons (row _ _) (.cons (row _ _) .nil)))

/-- The text consists of these lines, each as it stands at some depth. -/
def IsTextOf (unit : String) (lines : List String) (text : String) : Prop :=
  ∃ rows, text.toList = textOf rows ∧ List.Forall₂ (IsRowOf unit) rows lines

structure Page.Adds (before after : Page) (depth : Nat) (rows : List (List Char)) : Prop where
  unit : after.indentUnit = before.indentUnit
  depth : after.depth = depth
  text : after.text.toList = before.text.toList ++ textOf rows

theorem Page.Adds.trans {before middle after : Page} {depth between : Nat}
    {first second : List (List Char)} (left : before.Adds middle between first)
    (right : middle.Adds after depth second) : before.Adds after depth (first ++ second) := by
  refine ⟨right.unit.trans left.unit, right.depth, ?_⟩
  rw [right.text, left.text, text_of_append, List.append_assoc]

theorem Page.margin_chars (page : Page) :
    page.margin.toList = (List.replicate page.depth page.indentUnit.toList).flatten := by
  rw [margin, String.toList_join, List.flatMap_replicate]

theorem Page.adds_line (page : Page) (text : String) :
    page.Adds (page.line text) page.depth [rowAt page.indentUnit page.depth text] := by
  have lineEnd : ("\n" : String).toList = ['\n'] := rfl
  unfold line blank append rowAt
  split
  · exact ⟨rfl, rfl, by simp [textOf, lineEnd]⟩
  · exact ⟨rfl, rfl, by simp [textOf, lineEnd, margin_chars]⟩

theorem Page.adds_nothing (page : Page) (depth : Nat) :
    page.Adds { page with depth } depth [] :=
  ⟨rfl, rfl, (List.append_nil _).symm⟩

theorem Page.adds_lines (page : Page) (texts : List String) :
    page.Adds (page.lines texts) page.depth (texts.map (rowAt page.indentUnit page.depth)) := by
  induction texts generalizing page with
  | nil => exact page.adds_nothing page.depth
  | cons text rest ih =>
      have first := page.adds_line text
      have later := ih (page.line text)
      rw [first.unit, first.depth] at later
      exact first.trans later

theorem Page.adds_step (page : Page) {step : Step} (lined : step.IsLined) :
    page.Adds (page.apply step) (step.depthAfter page.depth)
      (step.rows page.indentUnit page.depth) := by
  have opened (header : String) : page.Adds (page.opening header) (page.depth + 1)
      [rowAt page.indentUnit page.depth header, rowAt page.indentUnit page.depth "\x7b"] := by
    have first := page.adds_line header
    have second := (page.line header).adds_line "\x7b"
    rw [first.unit, first.depth] at second
    have deeper : ((page.line header).line "\x7b").Adds (page.opening header) (page.depth + 1) [] :=
      ⟨rfl, congrArg (· + 1) second.depth, (List.append_nil _).symm⟩
    exact first.trans (second.trans deeper)
  have closed (page : Page) (closer : String) : page.Adds (page.closing closer) (page.depth - 1)
      [rowAt page.indentUnit (page.depth - 1) closer] :=
    (page.adds_nothing (page.depth - 1)).trans (page.dedent.adds_line closer)
  cases step with
  | line text => exact page.adds_line text
  | lines texts => exact page.adds_lines texts
  | blank => exact page.adds_line ""
  | indent => exact page.adds_nothing _
  | dedent => exact page.adds_nothing _
  | opening header => exact opened header
  | closing closer => exact closed page closer
  | function signature statement =>
      have first := opened signature
      have second := (page.opening signature).adds_line statement
      have third := closed ((page.opening signature).line statement) "\x7d"
      rw [second.unit, second.depth, first.unit, first.depth] at third
      rw [first.unit, first.depth] at second
      exact first.trans (second.trans third)
  | raw text => exact lined.elim

theorem Page.adds_steps (page : Page) {steps : List Step} (lined : ∀ step ∈ steps, step.IsLined) :
    page.Adds (page.applyAll steps) (steps.foldl Step.depthAfter page.depth)
      (rowsFrom page.indentUnit page.depth steps) := by
  induction steps generalizing page with
  | nil => exact page.adds_nothing page.depth
  | cons step rest ih =>
      simp only [List.forall_mem_cons] at lined
      have first := page.adds_step lined.1
      have later := ih (page.apply step) lined.2
      rw [first.unit, first.depth] at later
      exact first.trans later

theorem layout_eq_rows {steps : List Step} (lined : ∀ step ∈ steps, step.IsLined) :
    (layout unit steps).toList = textOf (rowsFrom unit 0 steps) :=
  ((Page.mk unit 0 "").adds_steps lined).text

theorem is_text_of_steps (depth : Nat) {steps : List Step}
    (lined : ∀ step ∈ steps, step.IsLined) :
    IsTextOf unit (steps.flatMap Step.written) (Reading.textAt unit depth steps) := by
  refine ⟨rowsFrom unit depth steps, ?_, rows_of_written depth steps⟩
  exact ((Page.mk unit depth "").adds_steps lined).text

end Rows

end EnumHeader.Cpp
