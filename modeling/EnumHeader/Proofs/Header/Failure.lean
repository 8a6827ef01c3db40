import EnumHeader.Header
import EnumHeader.Proofs.Model.Default

/-!
# When no header is generated

Generation checks the configuration, validates the definitions and derives their models, and stops
at the first of these that fails. The first two leave a single reason why a model cannot be derived:
a value enum falls back to a style that only flags have. The style of the configuration is no such
reason, because its check has refused it.
-/

namespace EnumHeader

set_option autoImplicit false

open Validation (Earliest Valid earliest_cons_iff not_earliest_nil)

section Lists

variable {Item Result : Type}

theorem map_m_eq_error_iff (step : Item → Except Failure Result) (items : List Item)
    (failure : Failure) :
    items.mapM step = .error failure ↔
      ∃ item, Earliest (fun _ other => ∃ fault, step other = .error fault) items item ∧
        step item = .error failure := by
  induction items with
  | nil => simp [not_earliest_nil, pure, Except.pure]
  | cons head rest ih =>
      rw [List.mapM_cons, Outcome.bind_eq_error_iff]
      simp only [earliest_cons_iff]
      cases value : step head with
      | error fault => simp [value]
      | ok result =>
          have later (results : List Result) :
              (pure (result :: results) : Except Failure (List Result)) ≠ .error failure := nofun
          simp only [Outcome.bind_eq_error_iff, ih]
          simp [later]

theorem map_m_eq_ok_iff (step : Item → Except Failure Result) (items : List Item) :
    (∃ results, items.mapM step = .ok results) ↔
      ∀ item ∈ items, ∃ result, step item = .ok result := by
  induction items with
  | nil => simp [pure, Except.pure]
  | cons head rest ih =>
      rw [List.forall_mem_cons, ← ih]
      simp only [List.mapM_cons, Outcome.bind_eq_ok_iff]
      constructor
      · rintro ⟨results, first, headOk, later, restOk, -⟩
        exact ⟨⟨first, headOk⟩, later, restOk⟩
      · rintro ⟨⟨first, headOk⟩, later, restOk⟩
        exact ⟨first :: later, first, headOk, later, restOk, rfl⟩

end Lists

namespace Definition

variable {config : Config} {definition : Definition}

/-- A value enum that names no default and carries a style for flags. -/
def CarriesFlagsStyle (definition : Definition) (style : DefaultStyle) : Prop :=
  definition.kind = .value ∧ definition.defaultName = none ∧
    definition.defaultStyle = some style ∧ (style = .zero ∨ style = .usedBitsSet)

theorem not_applies_to_value_iff (style : DefaultStyle) :
    ¬style.AppliesTo .value ↔ style = .zero ∨ style = .usedBitsSet := by
  cases style <;> decide

/-- A misplaced style is one that the definition carries itself, because the style of a checked
configuration applies to value enums. -/
theorem misplaces_style_iff_carries (checked : config.check = .ok ()) (style : DefaultStyle) :
    definition.MisplacesStyle config style ↔ definition.CarriesFlagsStyle style := by
  have applies : config.valueDefaultStyle.AppliesTo .value := by
    obtain ⟨-, -, -, -, -, -, -, passed⟩ := config.check_eq_ok_iff.1 checked
    unfold Config.checkValueStyle at passed
    split at passed
    next applies => exact applies
    next => cases passed
  unfold MisplacesStyle CarriesFlagsStyle effectiveStyle
  cases kind : definition.kind with
  | flags =>
      have trivially : style.AppliesTo .flags := trivial
      simp [trivially]
  | value =>
      cases own : definition.defaultStyle with
      | some ownStyle =>
          rw [← not_applies_to_value_iff]
          simp
      | none =>
          simp only [Option.getD_none, Config.defaultStyle, reduceCtorEq, false_and, and_false,
            iff_false, not_and, not_not]
          rintro - rfl
          exact applies

end Definition

theorem Model.build_cases {config : Config} {definition : Definition}
    (valid : Valid config definition) :
    ((∃ model, Model.build config definition = .ok model) ∧
        ∀ style, ¬definition.MisplacesStyle config style) ∨
      ∃ style, definition.MisplacesStyle config style ∧
        Model.build config definition = .error (.misuse (.styleNeedsFlags style)) := by
  have inside : definition.sizeIndex < config.sizeTypes.length := valid .registeredStorage
  have registered := List.getElem?_eq_getElem inside
  unfold Model.build
  simp only [registered]
  rcases Definition.resolve_default_cases config valid with
    ⟨⟨default, resolved, -⟩, placed⟩ | ⟨style, misplaced, failed⟩
  · exact Or.inl ⟨⟨_, (Outcome.bind_eq_ok_iff _ _ _).2 ⟨default, resolved, rfl⟩⟩, placed⟩
  · exact Or.inr ⟨style, misplaced, (Outcome.bind_eq_error_iff _ _ _).2 (Or.inl failed)⟩

namespace Header

inductive Reports (config : Config) (definitions : List Definition) (failure : Failure) : Prop where
  | misconfigured (reported : config.check = .error failure)
  | invalid (checked : config.check = .ok ())
      (reported : Validation.validate config definitions = .error failure)
  /-- The first value enum with a style for flags, which the failure names. -/
  | flagsStyle (checked : config.check = .ok ())
      (passed : Validation.validate config definitions = .ok ()) (definition : Definition)
      (style : DefaultStyle)
      (earliest : Earliest (fun _ other => ∃ style, other.CarriesFlagsStyle style) definitions
        definition)
      (carried : definition.CarriesFlagsStyle style)
      (reported : Failure.misuse (.styleNeedsFlags style) = failure)

section Derivation

variable {config : Config} {definitions : List Definition} (checked : config.check = .ok ())
  (passed : Validation.validate config definitions = .ok ())
include checked passed

theorem build_eq_error_iff {definition : Definition} (member : definition ∈ definitions)
    (failure : Failure) :
    Model.build config definition = .error failure ↔
      ∃ style, definition.CarriesFlagsStyle style ∧
        Failure.misuse (.styleNeedsFlags style) = failure := by
  obtain ⟨-, valid⟩ := Validation.valid_of_validate checked passed definition member
  simp only [← Definition.misplaces_style_iff_carries checked]
  rcases Model.build_cases valid with ⟨⟨model, built⟩, placed⟩ | ⟨style, misplaced, failed⟩
  · simp [built, placed]
  · rw [failed]
    constructor
    · intro same
      exact ⟨style, misplaced, Except.error.inj same⟩
    · rintro ⟨other, otherMisplaced, rfl⟩
      rw [misplaced.2.1.symm.trans otherMisplaced.2.1]

theorem build_eq_ok_iff {definition : Definition} (member : definition ∈ definitions) :
    (∃ model, Model.build config definition = .ok model) ↔
      ∀ style, ¬definition.CarriesFlagsStyle style := by
  have fails := build_eq_error_iff checked passed member
  constructor
  · rintro ⟨model, built⟩ style carried
    cases built.symm.trans ((fails _).2 ⟨style, carried, rfl⟩)
  · intro placed
    cases built : Model.build config definition with
    | ok model => exact ⟨model, rfl⟩
    | error failure =>
        obtain ⟨style, carried, -⟩ := (fails failure).1 built
        exact absurd carried (placed style)

theorem build_all_eq_ok_iff :
    (∃ models, Model.buildAll config definitions = .ok models) ↔
      ∀ definition ∈ definitions, ∀ style, ¬definition.CarriesFlagsStyle style := by
  rw [Model.buildAll, map_m_eq_ok_iff]
  exact forall₂_congr fun definition member => build_eq_ok_iff checked passed member

theorem build_all_eq_error_iff (failure : Failure) :
    Model.buildAll config definitions = .error failure ↔
      ∃ definition style,
        Earliest (fun _ other => ∃ style, other.CarriesFlagsStyle style) definitions definition ∧
          definition.CarriesFlagsStyle style ∧
          Failure.misuse (.styleNeedsFlags style) = failure := by
  have offences : ∀ definition, Earliest (fun _ other => ∃ fault, Model.build config other =
      .error fault) definitions definition ↔
        Earliest (fun _ other => ∃ style, other.CarriesFlagsStyle style) definitions
          definition := by
    intro definition
    apply Validation.earliest_congr
    intro _ other member
    simp only [build_eq_error_iff checked passed member]
    simp
  rw [Model.buildAll, map_m_eq_error_iff]
  refine exists_congr fun definition => ?_
  rw [offences definition, exists_and_left]
  refine and_congr_right fun earliest => ?_
  obtain ⟨before, after, split, -⟩ := earliest
  exact build_eq_error_iff checked passed (by simp [split]) failure

end Derivation

theorem generate_eq_ok_iff (config : Config) (definitions : List Definition)
    (timestamp : Option Timestamp) :
    (∃ text, generate config definitions timestamp = .ok text) ↔
      config.check = .ok () ∧ Validation.validate config definitions = .ok () ∧
        ∃ models, Model.buildAll config definitions = .ok models := by
  unfold generate
  simp only [Outcome.check_bind_eq_ok_iff]
  simp only [Outcome.bind_eq_ok_iff]
  constructor
  · rintro ⟨text, checked, passed, models, built, -⟩
    exact ⟨checked, passed, models, built⟩
  · rintro ⟨checked, passed, models, built⟩
    exact ⟨render config models timestamp, checked, passed, models, built, rfl⟩

theorem generate_eq_error_iff (config : Config) (definitions : List Definition)
    (timestamp : Option Timestamp) (failure : Failure) :
    generate config definitions timestamp = .error failure ↔
      config.check = .error failure ∨
        config.check = .ok () ∧ (Validation.validate config definitions = .error failure ∨
          Validation.validate config definitions = .ok () ∧
            Model.buildAll config definitions = .error failure) := by
  have written (models : List Model) :
      (pure (render config models timestamp) : Except Failure String) ≠ .error failure := nofun
  unfold generate
  simp only [Outcome.check_bind_eq_error_iff]
  simp only [Outcome.bind_eq_error_iff, written, and_false, exists_false, or_false]

/-- A header is generated exactly when the configuration passes its check, the definitions are valid
and no value enum falls back to a style for flags. Otherwise the failure is that of the first of
these that is not so, and after the first two no other failure of the derivation is left. -/
theorem generate_reports_first_failure (config : Config) (definitions : List Definition)
    (timestamp : Option Timestamp) :
    ((∃ text, generate config definitions timestamp = .ok text) ↔
        config.check = .ok () ∧ Validation.validate config definitions = .ok () ∧
          ∀ definition ∈ definitions, ∀ style, ¬definition.CarriesFlagsStyle style) ∧
      (∀ failure, generate config definitions timestamp = .error failure ↔
        Reports config definitions failure) ∧
      (config.check = .ok () → Validation.validate config definitions = .ok () →
        ∀ definition ∈ definitions, ∀ failure, Model.build config definition = .error failure ↔
          ∃ style, definition.CarriesFlagsStyle style ∧
            Failure.misuse (.styleNeedsFlags style) = failure) := by
  refine ⟨?_, fun failure => ?_, ?_⟩
  · rw [generate_eq_ok_iff]
    exact and_congr_right fun checked => and_congr_right fun passed =>
      build_all_eq_ok_iff checked passed
  · rw [generate_eq_error_iff]
    constructor
    · rintro (reported | ⟨checked, reported | ⟨passed, reported⟩⟩)
      · exact .misconfigured reported
      · exact .invalid checked reported
      · obtain ⟨definition, style, earliest, carried, same⟩ :=
          (build_all_eq_error_iff checked passed failure).1 reported
        exact .flagsStyle checked passed definition style earliest carried same
    · intro reports
      cases reports with
      | misconfigured reported => exact Or.inl reported
      | invalid checked reported => exact Or.inr ⟨checked, Or.inl reported⟩
      | flagsStyle checked passed definition style earliest carried reported =>
          have derived := (build_all_eq_error_iff checked passed failure).2
            ⟨definition, style, earliest, carried, reported⟩
          exact Or.inr ⟨checked, Or.inr ⟨passed, derived⟩⟩
  · intro checked passed definition member failure
    exact build_eq_error_iff checked passed member failure

/-- A named default makes up for a style for flags; the enum after it has no such name. -/
def misplacedStyles : List Definition :=
  [{ name := "Mode", kind := .value, sizeIndex := 4, defaultName := some "On",
      defaultStyle := some .usedBitsSet, entries := [⟨"Off", 0, ""⟩, ⟨"On", 1, ""⟩] },
    { name := "Level", kind := .value, sizeIndex := 4, defaultStyle := some .zero,
      entries := [⟨"Low", 0, ""⟩] }]

theorem failure_of_misplaced_styles :
    ({} : Config).check = .ok () ∧ Validation.validate {} misplacedStyles = .ok () ∧
      Reports {} misplacedStyles (.misuse (.styleNeedsFlags .zero)) ∧
      ∃ definition ∈ misplacedStyles, ∃ style, definition.CarriesFlagsStyle style ∧
        Failure.misuse (.styleNeedsFlags style) = .misuse (.styleNeedsFlags .zero) := by
  obtain ⟨-, reports, derivation⟩ := generate_reports_first_failure {} misplacedStyles none
  have level : misplacedStyles[1] ∈ misplacedStyles := List.getElem_mem _
  exact ⟨rfl, rfl, (reports _).1 rfl, misplacedStyles[1], level,
    (derivation rfl rfl _ level _).1 rfl⟩

end Header

end EnumHeader
