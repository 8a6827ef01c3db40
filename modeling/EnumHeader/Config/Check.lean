import EnumHeader.Config
import EnumHeader.Text.Identifier
import EnumHeader.Text.Quoted

/-!
# Checking a configuration

What the type of a configuration does not say by itself: names are identifiers, the indent is blank,
the registry is usable and the defaults refer to it. The rules stand in a fixed order, and the first
one that is broken is the one reported.
-/

namespace EnumHeader.Config

set_option autoImplicit false

/-- The first name that is no identifier is not acceptable under `key`. -/
def checkIdentifiers (key : String) (names : List String) : Except Failure Unit :=
  names.forM fun name =>
    if Text.isIdentifier name then .ok () else .error (.invalidValue key name)

def checkIndent (indent : String) : Except Failure Unit :=
  if indent.toList.all fun c => c == ' ' || c == '\t' then .ok ()
  else .error (.invalidValue "indent" (Text.quoted indent))

def checkSizeType (seen : List String) (sizeType : SizeType) : Except Failure Unit :=
  if seen.contains sizeType.name then .error (.misuse (.repeatedSizeType sizeType.name))
  else if sizeType.bits = 0 ∨ 128 < sizeType.bits then
    .error (.invalidValue ("size_types." ++ sizeType.name ++ ".bits") (toString sizeType.bits))
  else if Text.isBlankText sizeType.typeName then
    .error (.invalidValue ("size_types." ++ sizeType.name ++ ".type_name") "")
  else .ok ()

def checkSizeTypes (seen : List String) : List SizeType → Except Failure Unit
  | [] => .ok ()
  | sizeType :: rest => do
      checkSizeType seen sizeType
      checkSizeTypes (seen ++ [sizeType.name]) rest

def checkRegistry (sizeTypes : List SizeType) : Except Failure Unit :=
  if sizeTypes.isEmpty then .error (.misuse .emptyRegistry) else checkSizeTypes [] sizeTypes

def checkValueStyle (style : DefaultStyle) : Except Failure Unit :=
  if style.AppliesTo .value then .ok ()
  else .error (.invalidValue "value_enum_default_style" style.text)

/-- Every rule a configuration has to meet before anything is generated with it. -/
def check (config : Config) : Except Failure Unit := do
  checkIdentifiers "namespace" config.namespacePath
  checkIdentifiers "runtime_namespace" [config.runtimeNamespace]
  checkIdentifiers "include_guard_macro" config.guardMacro.toList
  checkIndent config.indent
  checkRegistry config.sizeTypes
  let _ ← config.defaultSizeIndex .value
  let _ ← config.defaultSizeIndex .flags
  checkValueStyle config.valueDefaultStyle

end EnumHeader.Config
