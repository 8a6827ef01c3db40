import EnumHeader.Cpp.Member
import EnumHeader.Proofs.Cpp.Returnless.Text
import EnumHeader.Proofs.Cpp.Rows

/-!
# Carriage returns in laid out texts

A text that is laid out with a blank indent has a carriage return just where one of its lines has
one.
-/

namespace EnumHeader.Cpp

set_option autoImplicit false

def Step.IsReturnless : Step → Prop
  | .line text | .opening text | .closing text => Returnless text
  | .lines texts => ∀ text ∈ texts, Returnless text
  | .function signature statement => Returnless signature ∧ Returnless statement
  | .blank | .indent | .dedent | .raw _ => True

def StepsReturnless (steps : List Step) : Prop :=
  ∀ step ∈ steps, step.IsReturnless

section Steps

variable {steps first second : List Step}

theorem steps_returnless_nil : StepsReturnless [] :=
  nofun

theorem steps_returnless_cons {step : Step} :
    StepsReturnless (step :: steps) ↔ step.IsReturnless ∧ StepsReturnless steps :=
  List.forall_mem_cons

theorem steps_returnless_append :
    StepsReturnless (first ++ second) ↔ StepsReturnless first ∧ StepsReturnless second :=
  List.forall_mem_append

theorem steps_returnless_flat_map {Item : Type} {items : List Item} {write : Item → List Step} :
    StepsReturnless (items.flatMap write) ↔ ∀ item ∈ items, StepsReturnless (write item) :=
  List.forall_mem_flatMap

theorem bodied_returnless {signature : String} :
    StepsReturnless (bodied signature steps) ↔ Returnless signature ∧ StepsReturnless steps := by
  have closing : Returnless "\x7d" := .literal rfl
  simp only [bodied, steps_returnless_append, steps_returnless_cons, steps_returnless_nil,
    Step.IsReturnless, closing, and_true]

end Steps

section Rows

variable {unit : String} (indent : IsIndent unit.toList)
include indent

theorem rows_of_step (depth : Nat) (step : Step) :
    (∀ row ∈ step.rows unit depth, '\r' ∉ row) ↔ step.IsReturnless := by
  have row := mem_row_iff fun inside => absurd (indent '\r' inside) (by decide)
  cases step <;> simp [Step.rows, Step.IsReturnless, Returnless, row]

theorem rows_of_steps (depth : Nat) (steps : List Step) :
    (∀ row ∈ rowsFrom unit depth steps, '\r' ∉ row) ↔ StepsReturnless steps := by
  induction steps generalizing depth with
  | nil => simp [rowsFrom, steps_returnless_nil]
  | cons step rest ih =>
      rw [rowsFrom, List.forall_mem_append, steps_returnless_cons, rows_of_step indent, ih]

theorem layout_returnless_iff {steps : List Step} (lined : ∀ step ∈ steps, step.IsLined) :
    Returnless (layout unit steps) ↔ StepsReturnless steps := by
  rw [← rows_of_steps indent 0, Returnless, layout_eq_rows lined]
  simp [textOf]

end Rows

end EnumHeader.Cpp
