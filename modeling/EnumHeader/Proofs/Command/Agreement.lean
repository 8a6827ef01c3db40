import EnumHeader.Command.Info
import EnumHeader.Command.Validate
import EnumHeader.Proofs.Command.Generate

/-!
# Commands that agree

Validating, reporting and printing each have their own way from the sources to the models, and each
makes its own text of what it finds. Up to the text the three ways are one. Generation checks the
configuration once more, which a configuration that was loaded has passed before.
-/

namespace EnumHeader.Command

set_option autoImplicit false

structure Derivation where
  config : Config
  definitions : List Definition
  models : List Model

/-- Loads, validates and derives; the first of these that fails is reported. -/
def derive (sources : Sources) (workspace : Workspace) : Except Failure Derivation := do
  let (config, definitions) ← workspace.outcome (load sources)
  Validation.validate config definitions
  let models ← Model.buildAll config definitions
  return ⟨config, definitions, models⟩

variable (sources : Sources) (workspace : Workspace)

theorem outcome_validate :
    workspace.outcome (validate sources false) =
      (fun derived => definitionsReport derived.definitions) <$> derive sources workspace := by
  unfold validate derive
  rw [if_neg (by decide), (reads_only_load sources).outcome_bind]
  simp only [Workspace.outcome_bind, Workspace.outcome_except, Workspace.after_except,
    Workspace.outcome_pure, map_bind, map_pure]
  rfl

theorem outcome_info (form : ReportForm) :
    workspace.outcome (info sources form none) =
      (fun derived => reports form derived.models) <$> derive sources workspace := by
  unfold info derive
  rw [(reads_only_load sources).outcome_bind]
  simp only [Workspace.outcome_bind, Workspace.outcome_except, Workspace.after_except,
    Workspace.outcome_pure, map_bind, map_pure]
  rfl

theorem outcome_print_of_derive (output : Path) :
    workspace.outcome (generate sources output .print) =
      (fun derived => Header.render derived.config derived.models
        (if derived.config.embedTimestamp then some workspace.clock else none)) <$>
          derive sources workspace := by
  rw [outcome_print, outcome_header, derive]
  simp only [map_bind, map_pure]
  cases loaded : workspace.outcome (load sources) with
  | error failure => rfl
  | ok pair =>
      obtain ⟨config, definitions⟩ := pair
      have resolved := ((outcome_load_eq_ok_iff sources workspace config definitions).1 loaded).1
      -- nothing is left for the second check to refuse
      have checked := checked_of_resolve_config sources workspace resolved
      change Header.generate config definitions _ = _
      rw [Header.generate, checked]
      rfl

/-- Whatever the workspace and the sources, the three commands all succeed or all fail, and then for
the same reason. A configuration that was loaded is never refused by a later check. -/
theorem reading_commands_agree (form : ReportForm) (output : Path) :
    ((∃ checked reported printed, workspace.outcome (validate sources false) = .ok checked ∧
        workspace.outcome (info sources form none) = .ok reported ∧
        workspace.outcome (generate sources output .print) = .ok printed) ∨
      ∃ failure, workspace.outcome (validate sources false) = .error failure ∧
        workspace.outcome (info sources form none) = .error failure ∧
        workspace.outcome (generate sources output .print) = .error failure) ∧
      ∀ config, workspace.outcome (resolveConfig sources) = .ok config →
        config.check = .ok () := by
  refine ⟨?_, fun config => checked_of_resolve_config sources workspace⟩
  rw [outcome_validate, outcome_info, outcome_print_of_derive]
  cases derive sources workspace with
  | error failure => exact Or.inr ⟨failure, rfl, rfl, rfl⟩
  | ok derived => exact Or.inl ⟨_, _, _, rfl, rfl, rfl⟩

/-- With the header that is not there yet for definitions, the commands fail together. -/
theorem agreement_in_project :
    project.outcome (resolveConfig projectSources) = .ok { indent := "\t" } ∧
      ({ indent := "\t" } : Config).check = .ok () ∧
      project.outcome (generate ⟨none, projectHeader⟩ projectHeader .print) =
        .error (.unreadable "../include/enums.h" .notFound) := by
  have resolved : project.outcome (resolveConfig projectSources) = .ok { indent := "\t" } := by
    decide +kernel
  have refused : project.outcome (validate ⟨none, projectHeader⟩ false) =
      .error (.unreadable "../include/enums.h" .notFound) := by decide +kernel
  obtain ⟨-, checked⟩ := reading_commands_agree projectSources project .json projectHeader
  obtain ⟨agreement, -⟩ := reading_commands_agree ⟨none, projectHeader⟩ project .json projectHeader
  refine ⟨resolved, checked _ resolved, ?_⟩
  rcases agreement with ⟨_, _, _, passed, -, -⟩ | ⟨failure, failed, -, printed⟩
  · cases refused.symm.trans passed
  · rw [printed, ← failed, refused]

end EnumHeader.Command
