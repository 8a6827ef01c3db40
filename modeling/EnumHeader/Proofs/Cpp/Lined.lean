import EnumHeader.Header
import EnumHeader.Proofs.Cpp.Reading.Lines

/-!
# Headers of whole lines

Nothing in a header is taken over as raw text, so whatever stands in its lines, each step ends the
line that it writes.
-/

namespace EnumHeader

set_option autoImplicit false

namespace Cpp

def AllLined (steps : List Step) : Prop :=
  ∀ step ∈ steps, step.IsLined

theorem all_lined_append {first second : List Step} :
    AllLined (first ++ second) ↔ AllLined first ∧ AllLined second :=
  List.forall_mem_append

def Member.body : Member → List Step
  | .method content => content.body
  | .conversion _ body => body
  | .friend _ body => body
  | _ => []

theorem bodied_lined (signature : String) {body : List Step} (lined : AllLined body) :
    AllLined (bodied signature body) := by
  have opening : AllLined [.opening signature] := by simp [AllLined, Step.IsLined]
  have closing : AllLined [.closing "\x7d"] := by simp [AllLined, Step.IsLined]
  exact all_lined_append.2 ⟨all_lined_append.2 ⟨opening, lined⟩, closing⟩

theorem Member.lined_of_body {member : Member} (lined : AllLined member.body) :
    AllLined member.steps := by
  cases member with
  | enumeration name base enumerators =>
      intro step inside
      simp only [steps, List.mem_append, List.mem_singleton, List.mem_flatMap] at inside
      rcases inside with (rfl | ⟨enumerator, _, inside⟩) | rfl
      · trivial
      · simp only [Enumerator.steps, List.mem_cons, List.not_mem_nil, or_false] at inside
        rcases inside with rfl | rfl <;> trivial
      · trivial
  | method content => exact bodied_lined content.signature lined
  | conversion signature content => exact bodied_lined signature lined
  | friend signature content => exact bodied_lined signature lined
  | _ => simp [AllLined, steps, Step.IsLined]

theorem guard_lined (guard : Guard) : AllLined guard.steps := by
  cases guard <;> simp [AllLined, Guard.steps, Step.IsLined]

theorem lookup_lined (lookup : Lookup) : AllLined lookup.steps := by
  have arm (arm : Arm) : ∀ step ∈ lookup.caseSteps arm, step.IsLined := by
    simp [Lookup.caseSteps, Lookup.result, Step.IsLined]
  intro step member
  unfold Lookup.steps at member
  split at member
  next =>
    simp only [Lookup.result, List.mem_append, List.mem_cons, List.not_mem_nil, or_false] at member
    rcases member with (rfl | rfl | rfl) | rfl <;> trivial
  next =>
    simp only [List.mem_append, List.mem_flatMap, List.mem_singleton] at member
    rcases member with ((rfl | ⟨first, -, inside⟩) | rfl) | rfl
    · trivial
    · exact arm first step inside
    · trivial
    · trivial

theorem search_lined (table : NameTable) : AllLined table.searchSteps := by
  unfold NameTable.searchSteps
  split <;> simp [AllLined, Step.IsLined]

def BodiesLined (members : List Member) : Prop :=
  ∀ member ∈ members, AllLined member.body

theorem bodies_lined_append {first second : List Member} :
    BodiesLined (first ++ second) ↔ BodiesLined first ∧ BodiesLined second :=
  List.forall_mem_append

theorem struct_lined {struct : Struct} (lined : BodiesLined struct.members) :
    AllLined struct.steps := by
  refine all_lined_append.2 ⟨all_lined_append.2 ⟨?_, ?_⟩, ?_⟩
  · simp [AllLined, Step.IsLined]
  · intro step inside
    obtain ⟨member, declared, inside⟩ := List.mem_flatMap.1 inside
    exact Member.lined_of_body (lined member declared) step inside
  · simp [AllLined, Step.IsLined]

section Wrapper

variable (config : Config) (model : Model)

theorem declarations_lined : BodiesLined (Wrapper.declarations model) := by
  simp [BodiesLined, Wrapper.declarations, Member.body, AllLined]

theorem introspection_lined : BodiesLined (Wrapper.introspection config model) := by
  simp [BodiesLined, Wrapper.introspection, Wrapper.query, Member.body, AllLined, Step.IsLined]

theorem validity_lined : BodiesLined (Wrapper.validityMembers config model) := by
  have guarded : AllLined (Wrapper.guard model).steps := guard_lined _
  simpa [BodiesLined, Wrapper.validityMembers, Wrapper.staticMethod, Member.body, AllLined,
    Step.IsLined] using guarded

theorem strings_lined : BodiesLined (Wrapper.stringMembers config model) := by
  have names : BodiesLined (Wrapper.nameMembers config model) := by
    have shown : AllLined (Wrapper.nameLookup config model).steps := lookup_lined _
    have sought : AllLined (Wrapper.nameTable config model).searchSteps := search_lined _
    simpa [BodiesLined, Wrapper.nameMembers, Wrapper.reader, Wrapper.staticMethod, Member.body,
      AllLined] using ⟨shown, sought⟩
  have descriptions : BodiesLined (Wrapper.descriptionMembers config model) := by
    have shown : AllLined (Wrapper.descriptionLookup config model).steps := lookup_lined _
    simpa [BodiesLined, Wrapper.descriptionMembers, Wrapper.reader, Member.body] using shown
  unfold Wrapper.stringMembers
  cases config.stringTable with
  | none => simp [BodiesLined]
  | names => exact names
  | namesAndDescriptions => exact bodies_lined_append.2 ⟨names, descriptions⟩

theorem operators_lined (owner : String) : BodiesLined (Wrapper.bitOperators owner) := by
  simp [BodiesLined, Wrapper.bitOperators, Wrapper.complement, Wrapper.bitOperator,
    Wrapper.friendFunction, Wrapper.assignment, Member.body, AllLined, Step.IsLined]

theorem equality_lined (owner : String) : BodiesLined (Wrapper.equality owner) := by
  simp [BodiesLined, Wrapper.equality, Wrapper.comparison, Wrapper.friendFunction, Member.body,
    AllLined, Step.IsLined]

theorem wrapper_bodies_lined : BodiesLined (wrapper config model).members := by
  have declared := declarations_lined model
  have introspected := introspection_lined config model
  have valid := validity_lined config model
  have strings := strings_lined config model
  have equal := equality_lined model.name
  have operators := operators_lined model.name
  unfold wrapper
  cases model.kind with
  | value =>
      have conversions : BodiesLined (Wrapper.valueConversions config model) := by
        simp [BodiesLined, Wrapper.valueConversions, Wrapper.fromInteger, Wrapper.staticMethod,
          Member.body, AllLined, Step.IsLined]
      have access : BodiesLined (Wrapper.valueAccess config) := by
        simp [BodiesLined, Wrapper.valueAccess, Wrapper.reader, Wrapper.modifier, Member.body,
          AllLined, Step.IsLined]
      simp only [Wrapper.ofValueEnum, bodies_lined_append, declared, introspected, valid, strings,
        equal, conversions, access]
      simp [BodiesLined, Wrapper.constructorOf, Wrapper.query, Member.body, AllLined, Step.IsLined]
  | flags =>
      have conversions : BodiesLined (Wrapper.flagsConversions config model) := by
        simp [BodiesLined, Wrapper.flagsConversions, Wrapper.fromInteger, Wrapper.staticMethod,
          Member.body, AllLined, Step.IsLined]
      have access : BodiesLined (Wrapper.flagsAccess config) := by
        simp [BodiesLined, Wrapper.flagsAccess, Wrapper.reader, Wrapper.modifier, Member.body,
          AllLined, Step.IsLined]
      have operations : BodiesLined (Wrapper.flagOperations config) := by
        simp [BodiesLined, Wrapper.flagOperations, Wrapper.reader, Wrapper.modifier, Member.body,
          AllLined, Step.IsLined]
      simp only [Wrapper.ofFlagsEnum, bodies_lined_append, declared, introspected, valid, strings,
        equal, operators, conversions, access, operations]
      simp [BodiesLined, Wrapper.constructorOf, Wrapper.query, Member.body, AllLined, Step.IsLined]

theorem enum_info_lined : AllLined (enumInfo config model) := by
  simp [AllLined, enumInfo, infoConstant, Step.IsLined]

end Wrapper

def PiecesLined (pieces : List Piece) : Prop :=
  ∀ piece ∈ pieces, piece.step.IsLined

theorem pieces_lined_append {first second : List Piece} :
    PiecesLined (first ++ second) ↔ PiecesLined first ∧ PiecesLined second :=
  List.forall_mem_append

theorem pieces_lined_of_code {steps : List Step} (lined : AllLined steps) :
    PiecesLined (steps.map Piece.code) := by
  intro piece inside
  obtain ⟨step, member, rfl⟩ := List.mem_map.1 inside
  exact lined step member

theorem pieces_lined_of_directives (directives : List Directive) :
    PiecesLined (directives.map Piece.directive) := by
  intro piece inside
  obtain ⟨directive, -, rfl⟩ := List.mem_map.1 inside
  trivial

theorem pieces_steps_lined {pieces : List Piece} (lined : PiecesLined pieces) :
    AllLined (pieces.map Piece.step) := by
  intro step inside
  obtain ⟨piece, member, rfl⟩ := List.mem_map.1 inside
  exact lined piece member

namespace Runtime

variable (config : Config)

theorem in_namespace_lined {body : List Step} (lined : AllLined body) :
    PiecesLined (inNamespace config body) := by
  apply pieces_lined_of_code
  refine all_lined_append.2 ⟨all_lined_append.2 ⟨?_, lined⟩, ?_⟩
  · simp [AllLined, Step.IsLined]
  · simp [AllLined, Step.IsLined]

theorem body_lined (block : BlockName) : PiecesLined (body config block) := by
  cases block with
  | requiredMacros => simp [PiecesLined, body, requiredMacros, Piece.step, Step.IsLined]
  | optionalMacros => simp [PiecesLined, body, optionalMacros, Piece.step, Step.IsLined]
  | baseTemplates => exact in_namespace_lined config (by simp [AllLined, Step.IsLined])
  | templateExtensions =>
      refine in_namespace_lined config ?_
      simp [AllLined, constantTemplate, template, Step.IsLined]

theorem pieces_lined : PiecesLined (pieces config) := by
  have block (block : BlockName) :
      PiecesLined (versioned config block (body config block) ++ [Piece.code .blank]) := by
    unfold versioned
    simp only [pieces_lined_append, body_lined config block]
    simp [PiecesLined, Piece.step, Step.IsLined]
  refine pieces_lined_append.2 ⟨?_, by simp [PiecesLined, Piece.step, Step.IsLined]⟩
  intro piece inside
  obtain ⟨name, -, member⟩ := List.mem_flatMap.1 inside
  exact block name piece member

end Runtime

end Cpp

namespace Header

open Cpp (PiecesLined pieces_lined_append pieces_lined_of_code pieces_lined_of_directives)

theorem prologue_lined (config : Config) (timestamp : Option Timestamp) :
    PiecesLined (prologue config timestamp) := by
  unfold prologue
  simp only [pieces_lined_append, pieces_lined_of_directives]
  simp [PiecesLined, Cpp.Piece.step, Cpp.Step.IsLined]

theorem infos_lined (config : Config) (models : List Model) :
    Cpp.AllLined (List.flatten ((models.map (Cpp.enumInfo config)).intersperse [.blank])) := by
  induction models with
  | nil => exact nofun
  | cons model rest ih =>
      have info := Cpp.enum_info_lined config model
      cases rest with
      | nil => simpa using info
      | cons next others =>
          have gap : Cpp.AllLined [.blank] := by simp [Cpp.AllLined, Cpp.Step.IsLined]
          exact Cpp.all_lined_append.2 ⟨info, Cpp.all_lined_append.2 ⟨gap, ih⟩⟩

theorem wrappers_lined (config : Config) (models : List Model) :
    Cpp.AllLined (wrappers config models) := by
  have structs : Cpp.AllLined
      (models.flatMap fun model => (Cpp.wrapper config model).steps ++ [Cpp.Step.blank]) := by
    intro step inside
    obtain ⟨model, -, inside⟩ := List.mem_flatMap.1 inside
    rcases List.mem_append.1 inside with struct | gap
    · exact Cpp.struct_lined (Cpp.wrapper_bodies_lined config model) step struct
    · rw [List.mem_singleton.1 gap]
      trivial
  unfold wrappers
  simp only
  split
  next => exact structs
  next =>
    refine Cpp.all_lined_append.2 ⟨Cpp.all_lined_append.2 ⟨?_, structs⟩, ?_⟩
    · simp [Cpp.AllLined, Cpp.Step.IsLined]
    · simp [Cpp.AllLined, Cpp.Step.IsLined]

theorem specializations_lined (config : Config) (models : List Model) :
    Cpp.AllLined (specializations config models) := by
  unfold specializations
  split
  next => simp [Cpp.AllLined]
  next =>
    refine Cpp.all_lined_append.2 ⟨Cpp.all_lined_append.2 ⟨?_, infos_lined config models⟩, ?_⟩
    · simp [Cpp.AllLined, Cpp.Step.IsLined]
    · simp [Cpp.AllLined, Cpp.Step.IsLined]

theorem pieces_lined (config : Config) (models : List Model) (timestamp : Option Timestamp) :
    Cpp.PiecesLined (pieces config models timestamp) := by
  have gap : Cpp.PiecesLined [.code .blank] := by
    simp [Cpp.PiecesLined, Cpp.Piece.step, Cpp.Step.IsLined]
  simp only [pieces, Cpp.pieces_lined_append]
  exact ⟨⟨⟨⟨⟨prologue_lined config timestamp, Cpp.Runtime.pieces_lined config⟩, gap⟩,
    Cpp.pieces_lined_of_code (wrappers_lined config models)⟩,
    Cpp.pieces_lined_of_code (specializations_lined config models)⟩,
    Cpp.pieces_lined_of_directives (guardClosing config)⟩

end Header

end EnumHeader
