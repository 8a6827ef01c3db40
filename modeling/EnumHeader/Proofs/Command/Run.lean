import EnumHeader.Error
import EnumHeader.Host

/-!
# Runs in a workspace

What an action ends with and the workspace it leaves, sequence by sequence. An action that only
reads leaves the workspace as it was, so a sequence of such actions is the sequence of their
results.
-/

namespace EnumHeader

set_option autoImplicit false

variable {Value Result : Type}

namespace Workspace

def outcome (workspace : Workspace) (action : ExceptT Failure (StateM Workspace) Value) :
    Except Failure Value :=
  (StateT.run action.run workspace).run.1

def after (workspace : Workspace) (action : ExceptT Failure (StateM Workspace) Value) :
    Workspace :=
  (StateT.run action.run workspace).run.2

variable (workspace : Workspace)

@[simp]
theorem outcome_pure (value : Value) : workspace.outcome (pure value) = .ok value :=
  rfl

@[simp]
theorem outcome_except (result : Except Failure Value) :
    workspace.outcome (liftM result) = result :=
  rfl

@[simp]
theorem after_except (result : Except Failure Value) :
    workspace.after (liftM result : ExceptT Failure (StateM Workspace) Value) = workspace :=
  rfl

theorem outcome_step (step : StateM Workspace Value) :
    workspace.outcome (liftM step) = .ok (step.run workspace).run.1 :=
  rfl

theorem after_step (step : StateM Workspace Value) :
    workspace.after (liftM step : ExceptT Failure (StateM Workspace) Value) =
      (step.run workspace).run.2 :=
  rfl

variable (action : ExceptT Failure (StateM Workspace) Value)
  (next : Value → ExceptT Failure (StateM Workspace) Result)

theorem outcome_bind :
    workspace.outcome (action >>= next) =
      workspace.outcome action >>= fun value => (workspace.after action).outcome (next value) := by
  unfold outcome after
  rw [ExceptT.run_bind, StateT.run_bind]
  rcases StateT.run action.run workspace with ⟨_ | value, left⟩ <;> rfl

theorem after_bind :
    workspace.after (action >>= next) =
      match workspace.outcome action with
      | .ok value => (workspace.after action).after (next value)
      | .error _ => workspace.after action := by
  unfold outcome after
  rw [ExceptT.run_bind, StateT.run_bind]
  rcases StateT.run action.run workspace with ⟨_ | value, left⟩ <;> rfl

end Workspace

namespace Command

variable {action : ExceptT Failure (StateM Workspace) Value}
  {next : Value → ExceptT Failure (StateM Workspace) Result}

def ReadsOnly (action : ExceptT Failure (StateM Workspace) Value) : Prop :=
  ∀ workspace : Workspace, workspace.after action = workspace

namespace ReadsOnly

theorem pure (value : Value) : ReadsOnly (Pure.pure value) :=
  fun _ => rfl

theorem throw (failure : Failure) :
    ReadsOnly (MonadExcept.throw failure : ExceptT Failure (StateM Workspace) Value) :=
  fun _ => rfl

theorem except (result : Except Failure Value) :
    ReadsOnly (liftM result : ExceptT Failure (StateM Workspace) Value) :=
  fun _ => rfl

theorem step {step : StateM Workspace Value}
    (reads : ∀ workspace : Workspace, (step.run workspace).run.2 = workspace) :
    ReadsOnly (liftM step : ExceptT Failure (StateM Workspace) Value) :=
  reads

theorem bind (first : ReadsOnly action) (rest : ∀ value, ReadsOnly (next value)) :
    ReadsOnly (action >>= next) := by
  intro workspace
  rw [Workspace.after_bind, first workspace]
  cases workspace.outcome action with
  | error failure => rfl
  | ok value => exact rest value workspace

theorem outcome_bind (first : ReadsOnly action) (workspace : Workspace) :
    workspace.outcome (action >>= next) =
      workspace.outcome action >>= fun value => workspace.outcome (next value) := by
  rw [Workspace.outcome_bind, first workspace]

theorem run_bind (first : ReadsOnly action) {workspace : Workspace} {value : Value}
    (ended : workspace.outcome action = .ok value) :
    workspace.outcome (action >>= next) = workspace.outcome (next value) ∧
      workspace.after (action >>= next) = workspace.after (next value) := by
  rw [first.outcome_bind, Workspace.after_bind, ended, first workspace]
  exact ⟨rfl, rfl⟩

end ReadsOnly

end Command

end EnumHeader
