import EnumHeader.Config
import EnumHeader.Text.Words

/-!
# Names in generated source

Names that follow from the configuration: macros, the include guard and qualified type names.
-/

namespace EnumHeader.Config

set_option autoImplicit false

/-- The macro that marks functions whose result should be used. -/
def nodiscard (config : Config) : String :=
  config.macroPrefix ++ "_NODISCARD"

def assertion (config : Config) : String :=
  config.macroPrefix ++ "_ASSERT"

/-- The segments that the include guard is derived from. -/
def guardSegments (config : Config) : List String :=
  if config.namespacePath.isEmpty then [config.runtimeNamespace] else config.namespacePath

def includeGuardMacro (config : Config) : String :=
  match config.guardMacro with
  | some name => name
  | none =>
      "_".intercalate (config.guardSegments.map Text.upperSnake ++ ["GENERATED_ENUMS_H"])

/-- The namespace of the generated types; empty for the global one. -/
def namespaceText (config : Config) : String :=
  "::".intercalate config.namespacePath

def qualified (config : Config) (name : String) : String :=
  "::" ++ String.join (config.namespacePath.map (· ++ "::")) ++ name

end EnumHeader.Config
