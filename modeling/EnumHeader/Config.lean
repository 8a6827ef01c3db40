import EnumHeader.Error
import EnumHeader.Storage
import EnumHeader.Text.Case

/-!
# Configuration

The formatting policy and the switches of one generation pass, with the registry of storage types
and the defaults that definitions fall back to.
-/

namespace EnumHeader

set_option autoImplicit false

inductive IncludeGuard where
  | none
  | pragmaOnce
  | cStyle
  deriving Repr, DecidableEq, Inhabited

inductive LineEnding where
  | lf
  | crlf
  deriving Repr, DecidableEq, Inhabited

inductive StringTable where
  | none
  | names
  | namesAndDescriptions
  deriving Repr, DecidableEq, Inhabited

inductive StringType where
  | narrow
  | wide
  deriving Repr, DecidableEq, Inhabited

structure Config where
  /-- Namespace of the generated types, outermost segment first. -/
  namespacePath : List String := []
  includeGuard : IncludeGuard := .pragmaOnce
  /-- Macro of the C-style guard; derived from the namespace when absent. -/
  guardMacro : Option String := none
  lineEnding : LineEnding := .lf
  indent : String := "    "
  preamble : List String := []
  extraIncludes : List String := []
  stringTable : StringTable := .names
  stringType : StringType := .narrow
  bitfieldMacros : Bool := true
  traitExtensions : Bool := true
  embedTimestamp : Bool := false
  /-- Namespace of the shared templates; in upper case, the start of every macro name. -/
  runtimeNamespace : String := "enumwright"
  singleBitFlags : Bool := false
  valueDefaultStyle : DefaultStyle := .first
  flagsDefaultStyle : DefaultStyle := .zero
  valueSizeType : String := "uint32"
  flagsSizeType : String := "uint32"
  sizeTypes : List SizeType := SizeType.standard
  deriving Repr, DecidableEq, Inhabited

namespace Config

def sizeIndexOf (config : Config) (name : String) : Except Failure Nat :=
  match config.sizeTypes.findIdx? (·.name = name) with
  | some index => .ok index
  | none => .error (.misuse (.unknownSizeType name))

def defaultSizeName (config : Config) : Kind → String
  | .value => config.valueSizeType
  | .flags => config.flagsSizeType

def defaultSizeIndex (config : Config) (kind : Kind) : Except Failure Nat :=
  config.sizeIndexOf (config.defaultSizeName kind)

def defaultStyle (config : Config) : Kind → DefaultStyle
  | .value => config.valueDefaultStyle
  | .flags => config.flagsDefaultStyle

def macroPrefix (config : Config) : String :=
  String.ofList (Text.upper config.runtimeNamespace.toList)

end Config

end EnumHeader
