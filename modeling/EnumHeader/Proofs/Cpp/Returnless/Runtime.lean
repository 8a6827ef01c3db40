import EnumHeader.Cpp.Runtime
import EnumHeader.Proofs.Cpp.Returnless.Wrapper

/-!
# No carriage returns in shared templates

A directive has a carriage return only where its names and texts have one, and the shared templates
are made of literals and of names that the configuration gives.
-/

namespace EnumHeader.Cpp

set_option autoImplicit false

section Directives

def Directive.texts : Directive → List String
  | .pragmaOnce | .endif => []
  | .includeFile text | .error text => [text]
  | .ifndef name | .ifNotDefined name | .ifDefined name | .ifHasAttribute name => [name]
  | .elifNotEqual name _ | .endifOf name => [name]
  | .define name parameters replacement => [name, parameters, replacement]

theorem returnless_blank_before {text : String} (free : Returnless text) :
    Returnless (blankBefore text) := by
  unfold blankBefore
  split
  · exact .literal rfl
  · exact returnless_append.2 ⟨.literal rfl, free⟩

theorem directive_returnless {directive : Directive}
    (free : ∀ text ∈ directive.texts, Returnless text) : Returnless directive.text := by
  have number := returnless_number
  have before := @returnless_blank_before
  unfold Directive.text
  cases directive
  all_goals
    simp only [Directive.texts, List.forall_mem_cons] at free
    simp only [returnless_append, free, number, before, and_true]
    and_intros <;> exact .literal rfl

end Directives

def Piece.IsReturnless : Piece → Prop
  | .directive content => ∀ text ∈ content.texts, Returnless text
  | .code content => content.IsReturnless

def PiecesReturnless (pieces : List Piece) : Prop :=
  ∀ piece ∈ pieces, piece.IsReturnless

section Pieces

variable {pieces first second : List Piece}

theorem pieces_returnless_nil : PiecesReturnless [] :=
  nofun

theorem pieces_returnless_cons {piece : Piece} :
    PiecesReturnless (piece :: pieces) ↔ piece.IsReturnless ∧ PiecesReturnless pieces :=
  List.forall_mem_cons

theorem pieces_returnless_append :
    PiecesReturnless (first ++ second) ↔ PiecesReturnless first ∧ PiecesReturnless second :=
  List.forall_mem_append

theorem pieces_returnless_flat_map {Item : Type} {items : List Item} {write : Item → List Piece} :
    PiecesReturnless (items.flatMap write) ↔ ∀ item ∈ items, PiecesReturnless (write item) :=
  List.forall_mem_flatMap

theorem pieces_returnless_of_code {steps : List Step} (free : StepsReturnless steps) :
    PiecesReturnless (steps.map Piece.code) :=
  List.forall_mem_map.2 free

theorem PiecesReturnless.steps (free : PiecesReturnless pieces) :
    StepsReturnless (pieces.map Piece.step) := by
  intro step inside
  obtain ⟨piece, member, rfl⟩ := List.mem_map.1 inside
  have own := free piece member
  cases piece with
  | directive content => exact directive_returnless own
  | code content => exact own

end Pieces

namespace Runtime

variable {config : Config} (names : config.GivenNames)
include names

theorem required_returnless : PiecesReturnless (requiredMacros config) := by
  have marked := returnless_nodiscard names
  have asserted := returnless_assertion names
  simp only [requiredMacros, pieces_returnless_cons, pieces_returnless_nil, Piece.IsReturnless,
    Directive.texts, List.forall_mem_cons, List.not_mem_nil, false_implies, implies_true, marked,
    asserted, and_true, true_and]
  and_intros <;> exact .literal rfl

theorem optional_returnless : PiecesReturnless (optionalMacros config) := by
  have start := returnless_start names
  have own := returnless_runtime names
  simp only [optionalMacros, pieces_returnless_cons, pieces_returnless_nil, Piece.IsReturnless,
    Step.IsReturnless, Directive.texts, List.forall_mem_cons, List.not_mem_nil, false_implies,
    implies_true, returnless_append, start, own, and_true, true_and]
  and_intros <;> exact .literal rfl

theorem in_namespace_returnless {body : List Step} (free : StepsReturnless body) :
    PiecesReturnless (inNamespace config body) := by
  have own := returnless_runtime names
  apply pieces_returnless_of_code
  simp only [steps_returnless_append, steps_returnless_cons, steps_returnless_nil,
    Step.IsReturnless, returnless_append, own, free, and_true]
  exact ⟨⟨.literal rfl, .literal rfl⟩, .literal rfl⟩

theorem base_returnless : PiecesReturnless (baseTemplates config) := by
  have number := returnless_number
  apply in_namespace_returnless names
  simp only [steps_returnless_cons, steps_returnless_nil, Step.IsReturnless, returnless_append,
    number, and_true, true_and]
  and_intros <;> exact .literal rfl

theorem extensions_returnless : PiecesReturnless (templateExtensions config) := by
  apply in_namespace_returnless names
  simp only [constantTemplate, template, steps_returnless_append, steps_returnless_cons,
    steps_returnless_nil, Step.IsReturnless, returnless_append, and_true, true_and]
  and_intros <;> exact .literal rfl

theorem versioned_returnless (block : BlockName) :
    PiecesReturnless (versioned config block (body config block)) := by
  have number := returnless_number
  have guard : Returnless (versionMacro config block) := by
    have start := returnless_start names
    have own : Returnless block.text := by cases block <;> exact .literal rfl
    simp only [versionMacro, returnless_append, start, own, and_true, true_and]
    exact ⟨.literal rfl, .literal rfl⟩
  have inside : PiecesReturnless (body config block) := by
    cases block with
    | requiredMacros => exact required_returnless names
    | optionalMacros => exact optional_returnless names
    | baseTemplates => exact base_returnless names
    | templateExtensions => exact extensions_returnless names
  simp only [versioned, pieces_returnless_append, pieces_returnless_cons, pieces_returnless_nil,
    Piece.IsReturnless, Directive.texts, List.forall_mem_cons, List.not_mem_nil, false_implies,
    implies_true, returnless_append, guard, inside, number, and_true, true_and]
  exact ⟨.literal rfl, .literal rfl⟩

theorem runtime_returnless : PiecesReturnless (pieces config) := by
  have own := returnless_runtime names
  have number := returnless_number
  have gap : PiecesReturnless [.code .blank] := List.forall_mem_singleton.2 trivial
  unfold pieces
  refine pieces_returnless_append.2 ⟨?_, ?_⟩
  · apply pieces_returnless_flat_map.2
    exact fun block _ => pieces_returnless_append.2 ⟨versioned_returnless names block, gap⟩
  · simp only [pieces_returnless_cons, pieces_returnless_nil, Piece.IsReturnless,
      Step.IsReturnless, returnless_append, own, number, and_true]
    exact ⟨⟨.literal rfl, .literal rfl⟩, .literal rfl⟩

end Runtime

end EnumHeader.Cpp
