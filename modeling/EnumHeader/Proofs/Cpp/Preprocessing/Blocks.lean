import EnumHeader.Proofs.Cpp.Nesting.Runtime
import EnumHeader.Proofs.Cpp.Preprocessing.Directive

/-!
# Blocks behind version macros

What is kept of a block of the shared templates whose version macro is not defined yet, and which
macros the kept lines define. Their names all start with the prefix of the configuration.
-/

namespace EnumHeader.Cpp.Preprocessing

set_option autoImplicit false

open Reading (IsWord)
open Cpp.Runtime (BlockName versionMacro)

section Rows

variable (unit : String)

def rowsOf (pieces : List Piece) : List (List Char) :=
  rowsFrom unit 0 (pieces.map Piece.step)

def EndsAtMargin (pieces : List Piece) : Prop :=
  (pieces.map Piece.step).foldl Step.depthAfter 0 = 0

variable {unit}

theorem rows_of_append {first second : List Piece} (margin : EndsAtMargin first) :
    rowsOf unit (first ++ second) = rowsOf unit first ++ rowsOf unit second := by
  unfold rowsOf EndsAtMargin at *
  rw [List.map_append, rows_from_append, margin]

theorem row_at_margin (text : String) : rowAt unit 0 text = text.toList := by
  unfold rowAt
  split
  next empty =>
    obtain rfl : text = "" := by simpa using empty
    rfl
  next => rfl

theorem rows_of_directive (directive : Directive) (rest : List Piece) :
    rowsOf unit (.directive directive :: rest) = directive.text.toList :: rowsOf unit rest := by
  have row : rowAt unit 0 directive.text = directive.text.toList := row_at_margin _
  change rowAt unit 0 directive.text :: rowsOf unit rest = _
  rw [row]

theorem margin_of_append {first second : List Piece} (left : EndsAtMargin first)
    (right : EndsAtMargin second) : EndsAtMargin (first ++ second) := by
  unfold EndsAtMargin at *
  rw [List.map_append, List.foldl_append, left, right]

theorem margin_of_flat_map {Item : Type} {write : Item → List Piece}
    (each : ∀ item, EndsAtMargin (write item)) (items : List Item) :
    EndsAtMargin (items.flatMap write) := by
  induction items with
  | nil => rfl
  | cons item rest ih => exact margin_of_append (each item) ih

end Rows

section Blocks

variable (compiler : Compiler) (config : Config)

def Compiler.marks : Bool :=
  compiler.asks && compiler.knows "nodiscard"

def Compiler.marking : String :=
  if compiler.marks then "[[nodiscard]]" else ""

/-- What is kept of the body of a block: of the conditional definitions in the first block, those
that the compiler leads to. -/
def keptBody : BlockName → List Piece
  | .requiredMacros =>
      [.directive (.define config.nodiscard "" compiler.marking),
        .directive (.define config.assertion "(expr)" "assert(expr)")]
  | .optionalMacros => Runtime.optionalMacros config
  | .baseTemplates => Runtime.baseTemplates config
  | .templateExtensions => Runtime.templateExtensions config

def keptBlock (block : BlockName) : List Piece :=
  .directive (.define (versionMacro config block) "" (toString block.version)) ::
    keptBody compiler config block

def definitionOf : Piece → Option Macro
  | .directive (.define name parameters replacement) => some (macroOf name parameters replacement)
  | _ => none

def definitions (pieces : List Piece) : List Macro :=
  (pieces.filterMap definitionOf).reverse

end Blocks

section Names

variable (compiler : Compiler) (config : Config)

/-- What stands after the prefix in the names of the macros that the body of a block defines, the
latest first. -/
def bodySuffixes : BlockName → List String
  | .requiredMacros => ["_ASSERT", "_NODISCARD"]
  | .optionalMacros => ["_PACK_INIT", "_PACK"]
  | .baseTemplates | .templateExtensions => []

def versionSuffix (block : BlockName) : String :=
  "_" ++ block.text ++ "_VERSION"

def suffixes (block : BlockName) : List String :=
  bodySuffixes block ++ [versionSuffix block]

theorem version_macro_eq (block : BlockName) :
    versionMacro config block = config.macroPrefix ++ versionSuffix block := by
  unfold versionMacro versionSuffix
  rw [String.append_assoc, String.append_assoc, String.append_assoc]

theorem version_listed (block : BlockName) : versionSuffix block ∈ suffixes block := by
  simp [suffixes]

theorem definitions_of_code (steps : List Step) :
    (steps.map Piece.code).filterMap definitionOf = [] := by
  induction steps with
  | nil => rfl
  | cons step rest ih => exact ih

theorem names_of_block (block : BlockName) :
    (definitions (keptBlock compiler config block)).map Macro.name =
      (suffixes block).map (config.macroPrefix ++ ·) := by
  have version := version_macro_eq config block
  cases block with
  | requiredMacros =>
      simp [keptBlock, keptBody, definitions, definitionOf, macroOf, suffixes, version,
        bodySuffixes, Config.nodiscard, Config.assertion]
  | optionalMacros =>
      simp [keptBlock, keptBody, Runtime.optionalMacros, definitions, List.filterMap_cons,
        definitionOf, macroOf, suffixes, bodySuffixes, version]
  | baseTemplates =>
      have code : (Runtime.baseTemplates config).filterMap definitionOf = [] :=
        definitions_of_code _
      simp [keptBlock, keptBody, code, definitions, definitionOf, macroOf, suffixes, bodySuffixes,
        version]
  | templateExtensions =>
      have code : (Runtime.templateExtensions config).filterMap definitionOf = [] :=
        definitions_of_code _
      simp [keptBlock, keptBody, code, definitions, definitionOf, macroOf, suffixes, bodySuffixes,
        version]

variable {config} (own : Text.isIdentifier config.runtimeNamespace = true)

include own

theorem word_of_prefix {suffix : String} (parts : suffix.toList.all Text.isNamePart = true) :
    IsWord (config.macroPrefix ++ suffix) := by
  have capitals := Text.is_name_shaped_upper (Text.name_shaped_of_identifier own)
  have shaped := Text.is_name_shaped_append capitals (List.all_eq_true.1 parts)
  apply Reading.is_word_of_name
  simpa [Config.macroPrefix] using shaped

end Names

section Defined

variable {compiler : Compiler} {config : Config} {macros : List Macro} (block : BlockName)
  {suffix : String}

theorem macro_not_test (listed : suffix ∈ suffixes block) :
    config.macroPrefix ++ suffix ≠ attributeTest := by
  -- the last letter of the test is small
  have last : ∀ block, ∀ suffix ∈ suffixes block,
      suffix.toList.getLast?.any Char.isUpper = true := by
    intro block
    cases block <;> decide
  have capital := last block suffix listed
  intro same
  have ends := congrArg (fun text : String => text.toList.getLast?.any Char.isUpper) same
  cases chars : suffix.toList with
  | nil => simp [chars] at capital
  | cons c rest =>
      have tail : (config.macroPrefix ++ suffix).toList.getLast? = suffix.toList.getLast? := by
        rw [String.toList_append, List.getLast?_append_of_ne_nil _ (by simp [chars])]
      simp only [tail, capital] at ends
      exact absurd ends (by decide)

theorem is_defined_eq (listed : suffix ∈ suffixes block) :
    isDefined compiler macros (config.macroPrefix ++ suffix) =
      decide (config.macroPrefix ++ suffix ∈ macros.map Macro.name) := by
  unfold isDefined
  rw [if_neg (macro_not_test block listed), Bool.eq_iff_iff]
  simp

end Defined

end EnumHeader.Cpp.Preprocessing
