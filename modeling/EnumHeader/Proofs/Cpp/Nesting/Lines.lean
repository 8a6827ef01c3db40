import EnumHeader.Proofs.Cpp.Nesting.Conditional
import EnumHeader.Proofs.Cpp.Nesting.Scan
import Mathlib.Data.List.Forall2

/-!
# Lines that nest

A line leads from one depth of braces and conditional blocks to another, whatever is open around it,
and lines that lead on from one to the next run from the first depth to the last. The rows of a laid
out text run as its lines do, with any margins in front of them.
-/

namespace EnumHeader.Cpp.Nesting

set_option autoImplicit false

@[ext]
structure Depth where
  braces : Nat
  conditions : Nat

instance : Add Depth :=
  ⟨fun first second => ⟨first.braces + second.braces, first.conditions + second.conditions⟩⟩

namespace Depth

def flat : Depth :=
  ⟨0, 0⟩

def braced : Depth :=
  ⟨1, 0⟩

def conditioned : Depth :=
  ⟨0, 1⟩

theorem add_assoc (first second third : Depth) :
    first + second + third = first + (second + third) :=
  Depth.ext (Nat.add_assoc ..) (Nat.add_assoc ..)

theorem flat_add (depth : Depth) : flat + depth = depth :=
  Depth.ext (Nat.zero_add _) (Nat.zero_add _)

end Depth

open Depth (flat add_assoc flat_add)

/-- The text is one line, and leads from one depth to another with anything around them. -/
structure IsLine (text : String) (before after : Depth) : Prop where
  single : '\n' ∉ text.toList
  leads : Leads (text.toList ++ ['\n']) before.braces after.braces
  nests : ∀ around, nestLine (before.conditions + around) text.toList =
    some (after.conditions + around)

inductive Run : Depth → List String → Depth → Prop where
  | nil (depth : Depth) : Run depth [] depth
  | cons {text : String} {rest : List String} {before middle after : Depth} (around : Depth)
      (line : IsLine text before middle) (later : Run (middle + around) rest after) :
      Run (before + around) (text :: rest) after

/-- Lines that close whatever they open. -/
def Level (lines : List String) : Prop :=
  Run flat lines flat

section Runs

variable {first second lines rest : List String} {text : String} {before middle after : Depth}

theorem Run.line (line : IsLine text before middle) (later : Run middle rest after) :
    Run before (text :: rest) after :=
  .cons flat line later

theorem Run.level (line : IsLine text flat flat) (later : Run before rest after) :
    Run before (text :: rest) after := by
  have whole := Run.cons before line ((flat_add before).symm ▸ later)
  rwa [flat_add] at whole

theorem Run.append (left : Run before first middle) (right : Run middle second after) :
    Run before (first ++ second) after := by
  induction left with
  | nil depth => exact right
  | cons around line _ ih => exact .cons around line (ih right)

theorem Run.around (run : Run before lines after) (depth : Depth) :
    Run (before + depth) lines (after + depth) := by
  induction run with
  | nil => exact .nil _
  | cons around line _ ih =>
      rw [add_assoc] at ih ⊢
      exact .cons (around + depth) line ih

theorem Level.nil : Level [] :=
  Run.nil flat

theorem Level.append (left : Level first) (right : Level second) : Level (first ++ second) :=
  Run.append left right

theorem Level.cons (line : IsLine text flat flat) (later : Level rest) : Level (text :: rest) :=
  Run.line line later

theorem Level.of_line (line : IsLine text flat flat) : Level [text] :=
  .cons line .nil

theorem Level.of_lines (each : ∀ line ∈ lines, IsLine line flat flat) : Level lines := by
  induction lines with
  | nil => exact .nil
  | cons line rest ih =>
      simp only [List.forall_mem_cons] at each
      exact .cons each.1 (ih each.2)

theorem Level.flat_map {Item : Type} {items : List Item} {write : Item → List String}
    (each : ∀ item ∈ items, Level (write item)) : Level (items.flatMap write) := by
  induction items with
  | nil => exact .nil
  | cons item rest ih =>
      simp only [List.forall_mem_cons] at each
      exact each.1.append (ih each.2)

theorem Level.enclosed {opener closer : String} {inside : Depth}
    (opens : IsLine opener flat inside) (body : Level lines)
    (closes : IsLine closer inside flat) : Level (opener :: (lines ++ [closer])) := by
  have within := Run.around body inside
  rw [flat_add] at within
  exact .line opens (within.append (.line closes (.nil flat)))

end Runs

section Rows

def Indented (row : List Char) (line : String) : Prop :=
  ∃ margin, IsIndent margin ∧ row = margin ++ line.toList

variable {unit : String} (indent : IsIndent unit.toList)

include indent in
theorem indented_row (depth : Nat) (text : String) : Indented (rowAt unit depth text) text := by
  unfold rowAt
  split
  next empty =>
    obtain rfl : text = "" := by simpa using empty
    exact ⟨[], nofun, rfl⟩
  next => exact ⟨_, indent_margin indent depth, rfl⟩

include indent in
theorem indented_rows (depth : Nat) (steps : List Step) :
    List.Forall₂ Indented (rowsFrom unit depth steps) (steps.flatMap Step.written) := by
  refine (rows_of_written depth steps).imp ?_
  rintro _ text ⟨depth, rfl⟩
  exact indented_row indent depth text

theorem conditional_of_row {row : List Char} {line : String} (indented : Indented row line) :
    conditional? row = conditional? line.toList := by
  obtain ⟨margin, blank, rfl⟩ := indented
  unfold conditional?
  rw [directive_name_of_margin blank]

theorem row_of_line {row : List Char} {line : String} {before after : Depth}
    (indented : Indented row line) (isLine : IsLine line before after) :
    '\n' ∉ row ∧ Leads (row ++ ['\n']) before.braces after.braces ∧
      ∀ around, nestLine (before.conditions + around) row = some (after.conditions + around) := by
  have same := conditional_of_row indented
  obtain ⟨margin, blank, rfl⟩ := indented
  have harmless : ∀ c ∈ margin, isHarmless c = true := by
    intro c member
    rcases blank c member with rfl | rfl <;> decide
  refine ⟨?_, ?_, ?_⟩
  · intro inside
    rcases List.mem_append.1 inside with left | right
    · exact absurd (harmless _ left) (by decide)
    · exact isLine.single right
  · rw [List.append_assoc]
    exact (leads_of_harmless harmless before.braces).append isLine.leads
  · intro around
    have nests := isLine.nests around
    unfold nestLine at nests ⊢
    rw [same]
    exact nests

theorem Run.rows {lines : List String} {before after : Depth} (run : Run before lines after)
    {rows : List (List Char)} (indented : List.Forall₂ Indented rows lines) :
    (∀ row ∈ rows, '\n' ∉ row) ∧
      scan ⟨.code, before.braces⟩ (textOf rows) = some ⟨.code, after.braces⟩ ∧
        nest before.conditions rows = some after.conditions := by
  -- by induction on the run, whose every line leads on with what is open around it
  induction run generalizing rows with
  | nil depth =>
      cases indented
      exact ⟨nofun, rfl, rfl⟩
  | cons around line _ ih =>
      cases indented with
      | cons row rest =>
          obtain ⟨single, leads, nests⟩ := row_of_line row line
          obtain ⟨laterSingle, scanned, nested⟩ := ih rest
          refine ⟨by simpa using ⟨single, laterSingle⟩, ?_, ?_⟩
          · have split (first : List Char) (others : List (List Char)) :
                textOf (first :: others) = (first ++ ['\n']) ++ textOf others := rfl
            rw [split, scan_append]
            exact (congrArg (Option.bind · _) (leads around.braces)).trans scanned
          · rw [nest_cons]
            exact (congrArg (Option.bind · _) (nests around.conditions)).trans nested

end Rows

end EnumHeader.Cpp.Nesting
