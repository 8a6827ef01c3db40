import EnumHeader.Definition
import EnumHeader.Document.Fault
import EnumHeader.FileTree.Fault
import EnumHeader.Integer

/-!
# Causes of failure

Every way in which loading, checking or generating can fail, as a cause with the facts it is about.
`Failure.message` is the only place that puts a cause into words.
-/

namespace EnumHeader

set_option autoImplicit false

inductive Violation where
  | repeatedEnumName (enum : String)
  | repeatedEntryName (enum entry : String)
  | noEntries (enum : String)
  | negativeFlag (enum entry : String) (value : Int)
  /-- The flag repeats the value of an earlier one, `first`. -/
  | repeatedFlag (enum entry first : String) (value : Int)
  /-- Single-bit flags are required, and this one does not set exactly one bit. -/
  | notSingleBit (enum entry : String) (value : Int)
  | outOfRange (enum entry : String) (value : Int) (sizeType : String)
  | reservedName (enum entry : String)
  | unknownDefault (enum entry : String)
  deriving Repr, DecidableEq, Inhabited

/-- A combination that can be described but not generated. -/
inductive Unsupported where
  | signedFlags (enum sizeType : String)
  | unknownStorage (enum : String) (index registrySize : Nat)
  deriving Repr, DecidableEq, Inhabited

/-- A request that the configuration, or the way the program is used, does not allow. -/
inductive Misuse where
  | emptyRegistry
  | repeatedSizeType (name : String)
  | unknownSizeType (name : String)
  | styleNeedsFlags (style : DefaultStyle)
  | defaultWithoutEntries
  | valuesExhausted (enum : String) (previous : Int)
  | bitsExhausted (enum : String)
  | noSuchEnum (name : String)
  | wouldOverwrite (path : String)
  deriving Repr, DecidableEq, Inhabited

inductive Failure where
  | misuse (cause : Misuse)
  | invalidValue (key value : String)
  | violation (cause : Violation)
  | unsupported (cause : Unsupported)
  /-- The text is no document of its format. -/
  | malformed (format : Document.Format)
  | data (format : Document.Format) (fault : Document.Fault)
  | unreadable (path : String) (fault : FileTree.Fault)
  | unwritable (fault : FileTree.Fault)
  | stale (path : String)
  deriving Repr, DecidableEq, Inhabited

open Document (backquoted)

def Violation.message : Violation → String
  | .repeatedEnumName enum => "duplicate enum name " ++ backquoted enum
  | .repeatedEntryName enum entry =>
      "duplicate entry name " ++ backquoted entry ++ " in enum " ++ backquoted enum
  | .noEntries enum => "enum " ++ backquoted enum ++ " has no entries"
  | .negativeFlag enum entry value =>
      "flags enum " ++ backquoted enum ++ " entry " ++ backquoted entry ++
        " has negative value " ++ Text.decimal value
  | .repeatedFlag enum entry first value =>
      "flags enum " ++ backquoted enum ++ " entry " ++ backquoted entry ++ " repeats value " ++
        Text.decimal value ++ " already used by " ++ backquoted first
  | .notSingleBit enum entry value =>
      "flags enum " ++ backquoted enum ++ " entry " ++ backquoted entry ++ " value " ++
        Text.hex (Integer.pattern value) ++ " sets more than one bit"
  | .outOfRange enum entry value sizeType =>
      "enum " ++ backquoted enum ++ " entry " ++ backquoted entry ++ " value " ++
        Text.decimal value ++ " does not fit storage type " ++ backquoted sizeType
  | .reservedName enum entry =>
      "enum " ++ backquoted enum ++ " entry " ++ backquoted entry ++
        " collides with a generated member name"
  | .unknownDefault enum entry =>
      "enum " ++ backquoted enum ++ " default value " ++ backquoted entry ++
        " is not one of its entries"

def Unsupported.message : Unsupported → String
  | .signedFlags enum sizeType =>
      "flags enum " ++ backquoted enum ++ " uses signed storage type " ++ backquoted sizeType
  | .unknownStorage enum index registrySize =>
      "enum " ++ backquoted enum ++ " references size type #" ++ toString index ++
        ", registry has " ++ toString registrySize

def Misuse.message : Misuse → String
  | .emptyRegistry => "size type registry is empty"
  | .repeatedSizeType name => "size type " ++ backquoted name ++ " is declared twice"
  | .unknownSizeType name => "unknown size type " ++ backquoted name
  | .styleNeedsFlags style =>
      "default style " ++ backquoted style.text ++ " only applies to flags enums"
  | .defaultWithoutEntries => "cannot resolve a default value without entries"
  | .valuesExhausted enum previous =>
      "enum " ++ backquoted enum ++ " cannot auto-assign past " ++ Text.decimal previous
  | .bitsExhausted enum =>
      "flags enum " ++ backquoted enum ++ " has no free bit left to auto-assign"
  | .noSuchEnum name => "no enum named " ++ backquoted name
  | .wouldOverwrite path => path ++ " already exists; pass --force to overwrite"

def Failure.message : Failure → String
  | .misuse cause => "Configuration error: " ++ cause.message
  | .invalidValue key value => "Invalid configuration value: " ++ key ++ " = " ++ value
  | .violation cause => "Validation error: " ++ cause.message
  | .unsupported cause => "Unsupported configuration: " ++ cause.message
  | .malformed format => format.text ++ " error: malformed document"
  | .data format fault => format.text ++ " error: " ++ fault.message
  | .unreadable path fault => "Failed to read " ++ path ++ ": " ++ fault.message
  | .unwritable fault => "IO error: " ++ fault.message
  | .stale path => "Generated output is out of date: " ++ path

end EnumHeader
