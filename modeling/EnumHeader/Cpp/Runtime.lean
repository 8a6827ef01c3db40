import EnumHeader.Cpp.Directive
import EnumHeader.Cpp.Naming

/-!
# Shared templates

The macros and templates that every header carries. Each block stands behind a macro that holds its
version: the first header of a translation unit that has the block defines it, later ones of the
same version skip it, and one of another version stops the build.
-/

namespace EnumHeader.Cpp.Runtime

set_option autoImplicit false

/-- The version that the templates declare and generated code checks against. -/
def runtimeVersion : Nat :=
  1

inductive BlockName where
  | requiredMacros
  | optionalMacros
  | baseTemplates
  | templateExtensions
  deriving Repr, DecidableEq, Inhabited

def BlockName.text : BlockName → String
  | .requiredMacros => "REQUIRED_MACROS"
  | .optionalMacros => "OPTIONAL_MACROS"
  | .baseTemplates => "BASE_TEMPLATES"
  | .templateExtensions => "TEMPLATE_EXTENSIONS"

/-- Each block is counted on its own. -/
def BlockName.version : BlockName → Nat
  | .requiredMacros => 1
  | .optionalMacros => 1
  | .baseTemplates => 1
  | .templateExtensions => 1

def versionMacro (config : Config) (block : BlockName) : String :=
  config.macroPrefix ++ "_" ++ block.text ++ "_VERSION"

def versioned (config : Config) (block : BlockName) (body : List Piece) : List Piece :=
  let guard := versionMacro config block
  [.directive (.ifNotDefined guard),
      .directive (.define guard "" (toString block.version))] ++ body ++
    [.directive (.elifNotEqual guard block.version),
      .directive (.error
        (guard ++ " mismatch: this header was generated for version " ++ toString block.version)),
      .directive .endif]

/-- The macros that generated code uses, unless they are defined already. -/
def requiredMacros (config : Config) : List Piece :=
  [.directive (.ifDefined "__has_cpp_attribute"),
    .directive (.ifHasAttribute "nodiscard"),
    .directive (.define config.nodiscard "" "[[nodiscard]]"),
    .directive .endif,
    .directive .endif,
    .directive (.ifNotDefined config.nodiscard),
    .directive (.define config.nodiscard "" ""),
    .directive .endif,
    .directive (.ifNotDefined config.assertion),
    .directive (.define config.assertion "(expr)" "assert(expr)"),
    .directive .endif]

def optionalMacros (config : Config) : List Piece :=
  let info := "::" ++ config.runtimeNamespace ++ "::enum_info<Enum>"
  let pack := config.macroPrefix ++ "_PACK"
  [.code (.line "// Bitfield member sized to the bits an enum needs"),
    .directive (.define pack "(Enum, Name)"
      ("typename " ++ info ++ "::underlying_type Name : " ++ info ++ "::packed_bits")),
    .directive (.define (config.macroPrefix ++ "_PACK_INIT") "(Enum, Name)"
      (pack ++ "(Enum, Name) = " ++ info ++ "::default_underlying"))]

def inNamespace (config : Config) (body : List Step) : List Piece :=
  let opening : List Step := [.line ("namespace " ++ config.runtimeNamespace), .line "\x7b"]
  let closing : List Step := [.line ("\x7d // namespace " ++ config.runtimeNamespace)]
  (opening ++ body ++ closing).map Piece.code

def baseTemplates (config : Config) : List Piece :=
  inNamespace config
    [.line ("inline constexpr int runtime_version = " ++ toString runtimeVersion ++ ";"),
      .blank,
      .line "template <class T>",
      .opening "struct enum_info",
      .line "static constexpr bool is_generated_enum = false;",
      .line "static constexpr bool is_value_enum = false;",
      .line "static constexpr bool is_flags_enum = false;",
      .closing "\x7d;",
      .blank,
      .line "template <class T>",
      .line "inline constexpr bool is_generated_enum_v = enum_info<T>::is_generated_enum;"]

def template (parameters signature statement : String) : List Step :=
  [.blank, .line ("template <" ++ parameters ++ ">"),
    .function ("constexpr " ++ signature ++ " noexcept") ("return " ++ statement ++ ";")]

def constantTemplate (resultType name : String) : List Step :=
  template "class T" (resultType ++ " " ++ name ++ "()") ("enum_info<T>::" ++ name)

def templateExtensions (config : Config) : List Piece :=
  inNamespace config
    ([.line "template <class T>",
        .line "inline constexpr bool is_value_enum_v = enum_info<T>::is_value_enum;",
        .line "template <class T>",
        .line "inline constexpr bool is_flags_enum_v = enum_info<T>::is_flags_enum;"] ++
      constantTemplate "int" "bits_required_storage" ++
      constantTemplate "int" "bits_required_transmission" ++
      constantTemplate "std::size_t" "count" ++
      constantTemplate "bool" "is_contiguous" ++
      template "class T" "auto to_underlying(T v)"
        "typename enum_info<T>::enum_type(v).to_underlying()" ++
      template "class T" "bool is_valid(typename enum_info<T>::underlying_type v)"
        "enum_info<T>::enum_type::is_valid(v)" ++
      template "class T" "auto from_integer(typename enum_info<T>::underlying_type v)"
        "enum_info<T>::enum_type::from_integer(v)" ++
      template "class T" "auto to_string(T v)"
        "typename enum_info<T>::enum_type(v).to_string()" ++
      template "class T, class S" "auto from_string(S s)"
        "enum_info<T>::enum_type::from_string(s)")

def body (config : Config) : BlockName → List Piece
  | .requiredMacros => requiredMacros config
  | .optionalMacros => optionalMacros config
  | .baseTemplates => baseTemplates config
  | .templateExtensions => templateExtensions config

def blocks (config : Config) : List BlockName :=
  [.requiredMacros] ++
    (if config.bitfieldMacros then [.optionalMacros] else []) ++
    [.baseTemplates] ++
    if config.traitExtensions then [.templateExtensions] else []

/-- All blocks, and the check that they belong to the generated code. -/
def pieces (config : Config) : List Piece :=
  ((blocks config).flatMap fun block =>
      versioned config block (body config block) ++ [.code .blank]) ++
    [.code (.line
      ("static_assert(::" ++ config.runtimeNamespace ++ "::runtime_version == " ++
        toString runtimeVersion ++ ", \"generated header and runtime blocks disagree\");"))]

end EnumHeader.Cpp.Runtime
