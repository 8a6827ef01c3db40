import Mathlib.Data.List.Forall2

/-!
# Steps that may fail

A sequence of steps succeeds exactly when each step does, and otherwise ends with the failure of the
first step that does not.
-/

namespace EnumHeader.Outcome

set_option autoImplicit false

variable {Fault Value Result : Type}

theorem bind_of_ok {step : Except Fault Value} {value : Value} (done : step = .ok value)
    (next : Value → Except Fault Result) : (step >>= next) = next value := by
  rw [done]
  rfl

theorem bind_eq_ok_iff (step : Except Fault Value) (next : Value → Except Fault Result)
    (result : Result) :
    (step >>= next) = .ok result ↔ ∃ value, step = .ok value ∧ next value = .ok result := by
  cases step with
  | error fault => simp [bind, Except.bind]
  | ok value => simp [bind, Except.bind]

theorem check_bind_eq_ok_iff (step : Except Fault Unit) (next : Unit → Except Fault Result)
    (result : Result) :
    (step >>= next) = .ok result ↔ step = .ok () ∧ next () = .ok result := by
  rw [bind_eq_ok_iff]
  constructor
  · rintro ⟨⟨⟩, done, rest⟩
    exact ⟨done, rest⟩
  · rintro ⟨done, rest⟩
    exact ⟨(), done, rest⟩

theorem bind_eq_error_iff (step : Except Fault Value) (next : Value → Except Fault Result)
    (fault : Fault) :
    (step >>= next) = .error fault ↔
      step = .error fault ∨ ∃ value, step = .ok value ∧ next value = .error fault := by
  cases step with
  | error other => simp [bind, Except.bind]
  | ok value => simp [bind, Except.bind]

theorem check_bind_eq_error_iff (step : Except Fault Unit) (next : Unit → Except Fault Result)
    (fault : Fault) :
    (step >>= next) = .error fault ↔
      step = .error fault ∨ step = .ok () ∧ next () = .error fault := by
  rw [bind_eq_error_iff]
  refine or_congr_right ⟨?_, fun ⟨done, rest⟩ => ⟨(), done, rest⟩⟩
  rintro ⟨⟨⟩, done, rest⟩
  exact ⟨done, rest⟩

theorem map_m_forall {step : Value → Except Fault Result} {items : List Value}
    {results : List Result} (done : items.mapM step = .ok results) :
    List.Forall₂ (fun item result => step item = .ok result) items results := by
  induction items generalizing results with
  | nil =>
      obtain rfl := Except.ok.inj done
      exact .nil
  | cons item rest ih =>
      rw [List.mapM_cons] at done
      obtain ⟨first, stepped, done⟩ := (bind_eq_ok_iff _ _ _).1 done
      obtain ⟨later, others, same⟩ := (bind_eq_ok_iff _ _ _).1 done
      obtain rfl := Except.ok.inj same
      exact .cons stepped (ih others)

end EnumHeader.Outcome
