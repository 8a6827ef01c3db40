import EnumHeader.Proofs.Cpp.Annotation
import EnumHeader.Proofs.Cpp.Lined
import EnumHeader.Proofs.Cpp.Uncommented
import EnumHeader.Proofs.Config.Accepted
import EnumHeader.Proofs.Header.Ending

/-!
# Descriptions and headers

Unless descriptions are strings of the program as well, a header differs from that of the same
definitions without descriptions by notes between its lines. Whatever the descriptions say, they
change no line of code and no failure.
-/

namespace EnumHeader

set_option autoImplicit false

namespace Cpp

def Member.IsCommented : Member → Prop
  | .enumeration _ _ enumerators =>
      ∀ enumerator ∈ enumerators, ∀ comment ∈ enumerator.comment, IsComment comment
  | _ => True

structure Struct.IsCommented (struct : Struct) : Prop where
  above : ∀ comment ∈ struct.comment, IsComment comment
  within : ∀ member ∈ struct.members, member.IsCommented

abbrev StepsAnnotate : List Step → List Step → Prop :=
  List.Forall₂ Step.Annotates

theorem steps_annotate_of_lined {steps : List Step} (lined : AllLined steps) :
    StepsAnnotate steps steps :=
  List.forall₂_same.2 fun step member => .same step (lined step member)

theorem steps_annotate_append {plain full plainLater fullLater : List Step}
    (first : StepsAnnotate plain full) (second : StepsAnnotate plainLater fullLater) :
    StepsAnnotate (plain ++ plainLater) (full ++ fullLater) :=
  List.rel_append first second

theorem steps_annotate_flat_map {Item : Type} {items : List Item} {plain full : Item → List Step}
    (each : ∀ item ∈ items, StepsAnnotate (plain item) (full item)) :
    StepsAnnotate (items.flatMap plain) (items.flatMap full) := by
  induction items with
  | nil => exact .nil
  | cons item rest ih =>
      simp only [List.forall_mem_cons] at each
      exact steps_annotate_append each.1 (ih each.2)

theorem enumerator_annotates {enumerator : Enumerator}
    (marked : ∀ comment ∈ enumerator.comment, IsComment comment) :
    StepsAnnotate enumerator.uncommented.steps enumerator.steps :=
  .cons (.comments _ marked) (.cons (.same _ trivial) .nil)

theorem struct_annotates {struct : Struct} (commented : struct.IsCommented)
    (lined : BodiesLined struct.members) :
    StepsAnnotate struct.uncommented.steps struct.steps := by
  unfold Struct.steps
  apply steps_annotate_append
  · apply steps_annotate_append
    · exact .cons (.comments _ commented.above) (.cons (.same _ trivial) .nil)
    · simp only [Struct.uncommented, List.flatMap_map]
      apply steps_annotate_flat_map
      intro member inside
      have same : StepsAnnotate member.steps member.steps :=
        steps_annotate_of_lined (Member.lined_of_body (lined member inside))
      cases member with
      | enumeration name base enumerators =>
          -- the only member whose steps the comments are taken from
          have marked : ∀ enumerator ∈ enumerators, ∀ comment ∈ enumerator.comment,
              IsComment comment := commented.within _ inside
          simp only [Member.uncommented, Member.steps, List.flatMap_map]
          apply steps_annotate_append
          · apply steps_annotate_append
            · exact .cons (.same _ trivial) .nil
            · exact steps_annotate_flat_map fun enumerator member =>
                enumerator_annotates (marked enumerator member)
          · exact .cons (.same _ trivial) .nil
      | _ => exact same
  · exact .cons (.same _ trivial) .nil

theorem commented_of_uncommented {member : Member} (bare : member.uncommented = member) :
    member.IsCommented := by
  cases member with
  | enumeration name base enumerators =>
      intro enumerator inside comment
      have same : enumerators.map Enumerator.uncommented = enumerators :=
        (Member.enumeration.inj bare).2.2
      obtain ⟨original, -, rfl⟩ := List.mem_map.1 (same ▸ inside)
      exact nofun
  | _ => trivial

theorem declarations_commented (model : Model) :
    ∀ member ∈ Wrapper.declarations model, member.IsCommented := by
  intro member inside
  simp only [Wrapper.declarations, List.mem_append, List.mem_cons, List.not_mem_nil, or_false,
    List.mem_map] at inside
  rcases inside with (rfl | rfl | rfl | rfl) | ⟨name, -, rfl⟩
  · trivial
  · trivial
  · intro enumerator declared
    obtain ⟨entry, -, rfl⟩ := List.mem_map.1 declared
    exact comment_lines_are_comments entry.description
  · trivial
  · trivial

theorem wrapper_commented (config : Config) (model : Model) :
    (wrapper config model).IsCommented := by
  constructor
  · rw [comment_of_wrapper]
    exact comment_lines_are_comments _
  · obtain ⟨later, members, bare⟩ := wrapper_members config model
    rw [members]
    intro member inside
    rcases List.mem_append.1 inside with first | after
    · exact declarations_commented model member first
    · rw [← bare] at after
      obtain ⟨original, -, rfl⟩ := List.mem_map.1 after
      apply commented_of_uncommented
      cases original <;> simp [Member.uncommented, Enumerator.uncommented]

theorem wrapper_annotates (config : Config) (model : Model)
    (plain : config.stringTable ≠ .namesAndDescriptions) :
    StepsAnnotate (wrapper config model.undescribed).steps (wrapper config model).steps := by
  rw [wrapper_undescribed config model plain]
  exact struct_annotates (wrapper_commented config model) (wrapper_bodies_lined config model)

end Cpp

namespace Header

open Cpp (StepsAnnotate steps_annotate_append steps_annotate_of_lined steps_annotate_flat_map)

variable (config : Config) (models : List Model) (timestamp : Option Timestamp)

theorem wrappers_annotate (plain : config.stringTable ≠ .namesAndDescriptions) :
    StepsAnnotate (wrappers config (models.map Model.undescribed)) (wrappers config models) := by
  have gap : StepsAnnotate [.blank] [.blank] := .cons (.same _ trivial) .nil
  have structs : StepsAnnotate
      ((models.map Model.undescribed).flatMap fun model =>
        (Cpp.wrapper config model).steps ++ [.blank])
      (models.flatMap fun model => (Cpp.wrapper config model).steps ++ [.blank]) := by
    rw [List.flatMap_map]
    exact steps_annotate_flat_map fun model _ =>
      steps_annotate_append (Cpp.wrapper_annotates config model plain) gap
  unfold wrappers
  simp only
  split
  next => exact structs
  next =>
    refine steps_annotate_append (steps_annotate_append ?_ structs) ?_
    · exact .cons (.same _ trivial) (.cons (.same _ trivial) (.cons (.same _ trivial) .nil))
    · exact .cons (.same _ trivial) (.cons (.same _ trivial) .nil)

theorem specializations_undescribed :
    specializations config (models.map Model.undescribed) = specializations config models := by
  unfold specializations
  rw [List.map_map]
  cases models <;> rfl

theorem pieces_annotate (plain : config.stringTable ≠ .namesAndDescriptions) :
    StepsAnnotate ((pieces config (models.map Model.undescribed) timestamp).map Cpp.Piece.step)
      ((pieces config models timestamp).map Cpp.Piece.step) := by
  have before := steps_annotate_of_lined (Cpp.pieces_steps_lined (prologue_lined config timestamp))
  have runtime := steps_annotate_of_lined (Cpp.pieces_steps_lined (Cpp.Runtime.pieces_lined config))
  have closing := steps_annotate_of_lined
    (Cpp.pieces_steps_lined (Cpp.pieces_lined_of_directives (guardClosing config)))
  have structs := wrappers_annotate config models plain
  have special := steps_annotate_of_lined (specializations_lined config models)
  have gap : StepsAnnotate [Cpp.Step.blank] [.blank] := .cons (.same _ trivial) .nil
  have code (steps : List Cpp.Step) : (steps.map Cpp.Piece.code).map Cpp.Piece.step = steps := by
    rw [List.map_map]
    exact List.map_id steps
  unfold pieces
  rw [specializations_undescribed]
  simp only [List.map_append, code]
  exact steps_annotate_append (steps_annotate_append (steps_annotate_append
    (steps_annotate_append (steps_annotate_append before runtime) gap) structs) special) closing

theorem render_annotates (plain : config.stringTable ≠ .namesAndDescriptions)
    (indent : Cpp.IsIndent config.indent.toList) :
    Cpp.Annotates (linesOf (render config (models.map Model.undescribed) timestamp))
      (linesOf (render config models timestamp)) := by
  obtain ⟨bare, full, bareText, fullText, single, lines⟩ :=
    Cpp.layout_annotates indent (pieces_annotate config models timestamp plain)
  have bareSingle : ∀ line ∈ bare, '\n' ∉ line := fun line member =>
    single line (List.mem_append_left full member)
  have fullSingle : ∀ line ∈ full, '\n' ∉ line := fun line member =>
    single line (List.mem_append_right bare member)
  unfold render
  rw [end_lines_of_text _ bareText bareSingle, end_lines_of_text _ fullText fullSingle]
  have ended : ∀ line, Cpp.IsNote line → Cpp.IsNote (line ++ returns config.lineEnding) := by
    intro line note
    cases config.lineEnding with
    | lf => simpa [returns] using note
    | crlf => exact Cpp.note_of_return note
  exact (lines.map ended).append (.refl _)

/-- Generation without the descriptions fails alike, or gives the header without their notes. -/
theorem generate_undescribed (plain : config.stringTable ≠ .namesAndDescriptions)
    (definitions : List Definition) :
    (∃ failure, generate config definitions timestamp = .error failure ∧
        generate config (definitions.map Definition.undescribed) timestamp = .error failure) ∨
      ∃ bare full, generate config definitions timestamp = .ok full ∧
        generate config (definitions.map Definition.undescribed) timestamp = .ok bare ∧
          Cpp.Annotates (linesOf bare) (linesOf full) := by
  unfold generate
  rw [Validation.validate_undescribed, Model.build_all_undescribed]
  cases checked : config.check with
  | error failure => exact .inl ⟨failure, rfl, rfl⟩
  | ok _ =>
      cases Validation.validate config definitions with
      | error failure => exact .inl ⟨failure, rfl, rfl⟩
      | ok _ =>
          cases Model.buildAll config definitions with
          | error failure => exact .inl ⟨failure, rfl, rfl⟩
          | ok models =>
              have indent := (Config.accepted_of_check checked).blankIndent
              exact .inr ⟨_, _, rfl, rfl, render_annotates config models timestamp plain indent⟩

/-- Definitions that differ in descriptions fail alike or give headers that differ in notes. -/
theorem descriptions_change_no_code (config : Config) (timestamp : Option Timestamp)
    (first second : List Definition) (plain : config.stringTable ≠ .namesAndDescriptions)
    (same : first.map Definition.undescribed = second.map Definition.undescribed) :
    (∃ failure, generate config first timestamp = .error failure ∧
        generate config second timestamp = .error failure) ∨
      ∃ bare left right,
        generate config (first.map Definition.undescribed) timestamp = .ok bare ∧
          generate config first timestamp = .ok left ∧
          generate config second timestamp = .ok right ∧
          Cpp.codeLines (linesOf left) = Cpp.codeLines (linesOf right) ∧
          Cpp.Annotates (linesOf bare) (linesOf left) ∧
          Cpp.Annotates (linesOf bare) (linesOf right) := by
  -- both are compared with what is generated without any description
  have one := generate_undescribed config timestamp plain first
  have other := generate_undescribed config timestamp plain second
  rw [← same] at other
  rcases one with ⟨failure, fails, bareFails⟩ | ⟨bare, left, made, bareMade, notes⟩
  · rcases other with ⟨_, fails', bareFails'⟩ | ⟨_, _, -, bareMade, -⟩
    · obtain rfl := Except.error.inj (bareFails.symm.trans bareFails')
      exact .inl ⟨failure, fails, fails'⟩
    · cases bareFails.symm.trans bareMade
  · rcases other with ⟨_, -, bareFails⟩ | ⟨_, right, made', bareMade', notes'⟩
    · cases bareFails.symm.trans bareMade
    · obtain rfl := Except.ok.inj (bareMade.symm.trans bareMade')
      exact .inr ⟨bare, left, right, bareMade, made, made',
        notes.code_lines.trans notes'.code_lines.symm, notes, notes'⟩

def described (above beside : String) : Definition :=
  { name := "Mode", kind := .value, sizeIndex := 0, entries := [⟨"Idle", 0, beside⟩],
    description := above }

theorem code_of_described_modes :
    ({ lineEnding := .crlf } : Config).stringTable ≠ .namesAndDescriptions ∧
      [described "" "ends in \\"].map Definition.undescribed =
        [described "\x7d\n\n#endif \\ \r\n" "*/"].map Definition.undescribed ∧
      ∃ left right,
        generate { lineEnding := .crlf } [described "" "ends in \\"] none = .ok left ∧
          generate { lineEnding := .crlf } [described "\x7d\n\n#endif \\ \r\n" "*/"] none =
            .ok right ∧
          Cpp.codeLines (linesOf left) = Cpp.codeLines (linesOf right) := by
  refine ⟨by decide, rfl, ?_⟩
  have either := descriptions_change_no_code { lineEnding := .crlf } none
    [described "" "ends in \\"] [described "\x7d\n\n#endif \\ \r\n" "*/"] (by decide) rfl
  rcases either with ⟨failure, fails, -⟩ | ⟨-, left, right, -, made, made', same, -, -⟩
  · cases fails
  · exact ⟨left, right, made, made', same⟩

end Header

end EnumHeader
