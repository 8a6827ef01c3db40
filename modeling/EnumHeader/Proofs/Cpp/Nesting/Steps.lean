import EnumHeader.Cpp.Guard
import EnumHeader.Cpp.Lookup
import EnumHeader.Cpp.Member
import EnumHeader.Proofs.Cpp.Annotation
import EnumHeader.Proofs.Cpp.Nesting.Written

/-!
# Steps and members that are level

Steps that write harmless lines are level, and so is a block around level steps. A member is level
when its texts are harmless, its comments are comments and the body between its braces is level.
-/

namespace EnumHeader.Cpp.Nesting

set_option autoImplicit false

open Depth (flat braced flat_add)

def StepsRun (before : Depth) (steps : List Step) (after : Depth) : Prop :=
  Run before (steps.flatMap Step.written) after

def StepsLevel (steps : List Step) : Prop :=
  StepsRun flat steps flat

section Steps

variable {first second body steps : List Step}

section Runs

variable {before after : Depth} {text : String} {rest : List Step}

theorem StepsRun.nil (depth : Depth) : StepsRun depth [] depth :=
  Run.nil depth

theorem StepsRun.append {middle : Depth} {first second : List Step}
    (left : StepsRun before first middle) (right : StepsRun middle second after) :
    StepsRun before (first ++ second) after := by
  unfold StepsRun
  rw [List.flatMap_append]
  exact Run.append left right

theorem StepsRun.line (harmless : Harmless text) (later : StepsRun before rest after) :
    StepsRun before (.line text :: rest) after :=
  Run.level (line_of_harmless harmless) later

theorem StepsRun.blank (later : StepsRun before rest after) :
    StepsRun before (.blank :: rest) after :=
  Run.level (line_of_harmless (.literal rfl)) later

theorem StepsRun.opening (harmless : Harmless text)
    (later : StepsRun (braced + before) rest after) :
    StepsRun before (.opening text :: rest) after := by
  have inside := Run.cons before line_opening later
  rw [flat_add] at inside
  exact Run.level (line_of_harmless harmless) inside

theorem StepsRun.closing (closes : IsLine text braced flat)
    (later : StepsRun before rest after) :
    StepsRun (braced + before) (.closing text :: rest) after :=
  Run.cons before closes ((flat_add before).symm ▸ later)

end Runs

theorem StepsLevel.append (left : StepsLevel first) (right : StepsLevel second) :
    StepsLevel (first ++ second) :=
  StepsRun.append left right

theorem StepsLevel.flat_map {Item : Type} {items : List Item} {write : Item → List Step}
    (each : ∀ item ∈ items, StepsLevel (write item)) : StepsLevel (items.flatMap write) := by
  unfold StepsLevel StepsRun
  rw [List.flatMap_assoc]
  exact Level.flat_map each

def IsHarmlessStep : Step → Prop
  | .line text => Harmless text
  | .lines texts => ∀ text ∈ texts, Harmless text
  | .blank | .indent | .dedent => True
  | .opening _ | .closing _ | .function .. | .raw _ => False

theorem StepsLevel.of_harmless (harmless : ∀ step ∈ steps, IsHarmlessStep step) :
    StepsLevel steps := by
  apply Level.flat_map
  intro step member
  have own := harmless step member
  cases step with
  | line text => exact .of_line (line_of_harmless own)
  | lines texts => exact .of_lines fun text inside => line_of_harmless (own text inside)
  | blank => exact .of_line (line_of_harmless (.literal rfl))
  | indent | dedent => exact .nil
  | opening _ | closing _ | function _ _ | raw _ => exact own.elim

theorem StepsLevel.line {text : String} (isLine : IsLine text flat flat) :
    StepsLevel [.line text] :=
  Level.of_line isLine

theorem StepsLevel.block {header closer : String} (headed : IsLine header flat flat)
    (inside : StepsLevel body) (closes : IsLine closer braced flat) :
    StepsLevel ([.opening header] ++ body ++ [.closing closer]) := by
  have written : ([Step.opening header] ++ body ++ [Step.closing closer]).flatMap Step.written =
      header :: ("\x7b" :: (body.flatMap Step.written ++ [closer])) := by
    simp [Step.written]
  unfold StepsLevel StepsRun
  rw [written]
  exact Level.cons headed (.enclosed line_opening inside closes)

theorem StepsLevel.function {signature statement : String} (signed : Harmless signature)
    (stated : Harmless statement) : StepsLevel [.function signature statement] := by
  have inside : Level [statement] := .of_line (line_of_harmless stated)
  exact Level.cons (line_of_harmless signed) (.enclosed line_opening inside line_closing)

theorem namespace_level {name : String} (named : Harmless name) (inside : StepsLevel body) :
    StepsLevel ([.line ("namespace " ++ name), .line "\x7b"] ++ body ++
      [.line ("\x7d // namespace " ++ name)]) := by
  have header : Harmless ("namespace " ++ name) := .append (.literal rfl) named
  have level := Level.cons (line_of_harmless header)
    (.enclosed line_opening inside (line_of_namespace_end named))
  have written : ([Step.line ("namespace " ++ name), .line "\x7b"] ++ body ++
      [Step.line ("\x7d // namespace " ++ name)]).flatMap Step.written =
        ("namespace " ++ name) :: ("\x7b" :: (body.flatMap Step.written ++
          ["\x7d // namespace " ++ name])) := by
    simp [Step.written]
  unfold StepsLevel StepsRun
  rwa [written]

theorem bodied_level {signature : String} (signed : Harmless signature)
    (inside : StepsLevel body) : StepsLevel (bodied signature body) :=
  .block (line_of_harmless signed) inside line_closing

end Steps

section Members

def IsTameMember : Member → Prop
  | .gap => True
  | .alias name target => Harmless name ∧ Harmless target
  | .enumeration name base enumerators =>
      Harmless name ∧ Harmless base ∧ ∀ enumerator ∈ enumerators,
        (∀ comment ∈ enumerator.comment, IsComment comment) ∧
          Harmless enumerator.name ∧ Harmless enumerator.value.text
  | .constant name => Harmless name
  | .record name fields => Harmless name ∧ ∀ field ∈ fields, Harmless field
  | .table elementType name rows =>
      Harmless elementType ∧ Harmless name ∧ ∀ row ∈ rows, IsLine row flat flat
  | .method content => Harmless content.signature ∧ StepsLevel content.body
  | .constructor text => IsLine text flat flat
  | .conversion signature body | .friend signature body => Harmless signature ∧ StepsLevel body
  | .privateField fieldType name => Harmless fieldType ∧ Harmless name

theorem table_level {elementType name : String} {rows : List String}
    (typed : Harmless elementType) (named : Harmless name)
    (each : ∀ row ∈ rows, IsLine row flat flat) :
    StepsLevel (Member.table elementType name rows).steps := by
  have opens : IsLine ("static constexpr std::array<" ++ elementType ++ ", " ++
      toString rows.length ++ "> " ++ name ++ " = \x7b\x7b") flat ⟨2, 0⟩ :=
    line_of_ending (.append (.append (.append (.append (.append (.literal rfl) typed)
      (.literal rfl)) (harmless_number _)) (.literal rfl)) named) (by decide) (by decide)
      (by decide)
  have closes : IsLine "\x7d\x7d;" ⟨2, 0⟩ flat :=
    line_of_braces (by decide) (by decide) (leads_of_scan (by decide))
  have written : (Member.table elementType name rows).steps.flatMap Step.written =
      ("static constexpr std::array<" ++ elementType ++ ", " ++ toString rows.length ++ "> " ++
        name ++ " = \x7b\x7b") :: (rows ++ ["\x7d\x7d;"]) := by
    simp [Member.steps, Step.written]
  unfold StepsLevel StepsRun
  rw [written]
  exact Level.enclosed opens (.of_lines each) closes

theorem comments_level {comments : List String} (each : ∀ comment ∈ comments, IsComment comment) :
    Level comments :=
  .of_lines fun comment inside =>
    line_of_comment (each comment inside).marked (each comment inside).single

theorem enumerator_level {enumerator : Enumerator}
    (comments : ∀ comment ∈ enumerator.comment, IsComment comment)
    (named : Harmless enumerator.name) (valued : Harmless enumerator.value.text) :
    StepsLevel enumerator.steps := by
  have declared : Harmless (enumerator.name ++ " = " ++ enumerator.value.text ++ ",") :=
    .append (.append (.append named (.literal rfl)) valued) (.literal rfl)
  exact (comments_level comments).append (.of_line (line_of_harmless declared))

theorem member_level {member : Member} (tame : IsTameMember member) : StepsLevel member.steps := by
  match member, tame with
  | .gap, _ => exact .of_harmless (by simp [Member.steps, IsHarmlessStep])
  | .alias name target, ⟨named, aimed⟩ =>
      have text : Harmless ("using " ++ name ++ " = " ++ target ++ ";") :=
        .append (.append (.append (.append (.literal rfl) named) (.literal rfl)) aimed)
          (.literal rfl)
      exact .line (line_of_harmless text)
  | .enumeration name base enumerators, ⟨named, based, each⟩ =>
      have header : Harmless ("enum class " ++ name ++ " : " ++ base) :=
        .append (.append (.append (.literal rfl) named) (.literal rfl)) based
      have inside : StepsLevel (enumerators.flatMap Enumerator.steps) :=
        .flat_map fun enumerator member =>
          have ⟨comments, entry, value⟩ := each enumerator member
          enumerator_level comments entry value
      exact .block (line_of_harmless header) inside line_ending
  | .constant name, named =>
      have text : Harmless ("static constexpr Value " ++ name ++ " = Value::" ++ name ++ ";") :=
        .append (.append (.append (.append (.literal rfl) named) (.literal rfl)) named)
          (.literal rfl)
      exact .line (line_of_harmless text)
  | .record name fields, ⟨named, each⟩ =>
      have header : Harmless ("struct " ++ name) := .append (.literal rfl) named
      have inside : StepsLevel [.lines fields] :=
        .of_harmless (by simpa [IsHarmlessStep] using each)
      exact .block (line_of_harmless header) inside line_ending
  | .table elementType name rows, ⟨typed, named, each⟩ => exact table_level typed named each
  | .method content, ⟨signed, inside⟩ => exact bodied_level signed inside
  | .constructor text, isLine => exact .line isLine
  | .conversion signature body, ⟨signed, inside⟩ => exact bodied_level signed inside
  | .friend signature body, ⟨signed, inside⟩ => exact bodied_level signed inside
  | .privateField fieldType name, ⟨typed, named⟩ =>
      have mark : Harmless "private:" := .literal rfl
      have field : Harmless (fieldType ++ " " ++ name ++ ";") :=
        .append (.append (.append typed (.literal rfl)) named) (.literal rfl)
      exact .of_harmless (by simp [Member.steps, IsHarmlessStep, mark, field])

theorem struct_level {struct : Struct} (comments : ∀ comment ∈ struct.comment, IsComment comment)
    (named : Harmless struct.name) (tame : ∀ member ∈ struct.members, IsTameMember member) :
    StepsLevel struct.steps := by
  have header : Harmless ("struct " ++ struct.name) := .append (.literal rfl) named
  have inside : StepsLevel (struct.members.flatMap Member.steps) :=
    .flat_map fun member inside => member_level (tame member inside)
  have block := inside.block (line_of_harmless header) line_ending
  exact (comments_level comments).append block

end Members

end EnumHeader.Cpp.Nesting
