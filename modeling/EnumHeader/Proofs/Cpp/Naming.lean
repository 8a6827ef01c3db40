import EnumHeader.Cpp.Naming
import EnumHeader.Proofs.Config.Accepted
import EnumHeader.Proofs.Text.Words

/-!
# The names that a configuration gives

An accepted configuration gives identifiers, and the macro of the include guard that is derived from
them is an identifier again: the first segment keeps its underscores, so that no digit comes first.
-/

namespace EnumHeader.Config

set_option autoImplicit false

open Text (isIdentifier isNamePart isNameShaped)

structure GivenNames (config : Config) : Prop where
  path : ∀ segment ∈ config.namespacePath, isIdentifier segment = true
  runtime : isIdentifier config.runtimeNamespace = true
  guard : ∀ name ∈ config.guardMacro.toList, isIdentifier name = true

variable {config : Config}

theorem given_names_of_check (checked : config.check = .ok ()) : GivenNames config := by
  obtain ⟨path, runtime, guard, -⟩ := config.check_eq_ok_iff.1 checked
  have own := (check_identifiers_eq_ok_iff _ _).1 runtime
  exact ⟨(check_identifiers_eq_ok_iff _ _).1 path, own _ (List.mem_singleton.2 rfl),
    (check_identifiers_eq_ok_iff _ _).1 guard⟩

theorem guard_segments_ne_nil (config : Config) : config.guardSegments ≠ [] := by
  unfold guardSegments
  by_cases none : config.namespacePath = []
  · simp [none]
  · simp [none]

theorem GivenNames.guard_segments (names : GivenNames config) :
    ∀ segment ∈ config.guardSegments, isIdentifier segment = true := by
  unfold guardSegments
  split_ifs
  · simpa using names.runtime
  · exact names.path

/-- A macro that is not given starts as the upper-case form of the first segment does. -/
theorem GivenNames.guard_named (names : GivenNames config) :
    isIdentifier config.includeGuardMacro = true := by
  unfold includeGuardMacro
  cases given : config.guardMacro with
  | some name => exact names.guard name (by simp [given])
  | none =>
      obtain ⟨first, rest, segments⟩ := List.exists_cons_of_ne_nil config.guard_segments_ne_nil
      have own := names.guard_segments
      simp only [segments, List.forall_mem_cons] at own
      have start : isNameShaped (Text.upperSnake first).toList = true :=
        Text.is_name_shaped_upper_snake (Text.name_shaped_of_identifier own.1)
      have later : ∀ text ∈ rest.map Text.upperSnake ++ ["GENERATED_ENUMS_H"],
          ∀ c ∈ text.toList, isNamePart c = true := by
        simp only [List.forall_mem_append, List.forall_mem_map, List.forall_mem_singleton]
        constructor
        · intro segment member
          have shaped := Text.name_shaped_of_identifier (own.2 segment member)
          exact Text.parts_of_name (Text.is_name_shaped_upper_snake shaped)
        · exact List.all_eq_true.1 (by decide)
      apply Text.identifier_of_capital (c := 'H')
      · rw [segments]
        exact Text.is_name_shaped_intercalate (List.all_eq_true.1 (by decide)) start later
      · rw [String.intercalate_append_of_ne_nil (by simp [segments]) (by simp)]
        simp
      · decide

/-- The check looks at the segments only, and the macro needs no check of its own. A word without a
character is kept, so that a segment such as `_2` leaves no digit in front. -/
theorem include_guard_is_identifier (checked : config.check = .ok ()) :
    isIdentifier config.includeGuardMacro = true :=
  (given_names_of_check checked).guard_named

def numberedSpaces : Config :=
  { namespacePath := ["_2", "__x__", "renderHTTP2D"] }

theorem guard_of_numbered_spaces :
    numberedSpaces.check = .ok () ∧
      numberedSpaces.includeGuardMacro = "_2___X___RENDER_HTTP_2_D_GENERATED_ENUMS_H" ∧
      isIdentifier numberedSpaces.includeGuardMacro = true := by
  have checked : numberedSpaces.check = .ok () := rfl
  exact ⟨checked, by decide +kernel, include_guard_is_identifier checked⟩

end EnumHeader.Config
