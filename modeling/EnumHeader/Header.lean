import EnumHeader.Config.Check
import EnumHeader.Cpp.Runtime
import EnumHeader.Cpp.Wrapper
import EnumHeader.Text.Blank
import EnumHeader.Timestamp
import EnumHeader.Validation

/-!
# Generating a header

The one entry point of generation: the configuration is checked, the definitions are validated and
their models derived, and only then is anything written. The text depends on nothing but the
configuration, the definitions and the time that is passed in.
-/

namespace EnumHeader

set_option autoImplicit false

namespace Header

open Cpp (Directive Piece Step)

def generatorVersion : String :=
  "0.1.0"

def standardIncludes : List String :=
  ["array", "cassert", "cstddef", "cstdint", "optional", "string_view"]

def isWrapped (header : List Char) : Bool :=
  (header.head? == some '<' && header.getLast? == some '>') ||
    (2 ≤ header.length && header.head? == some '"' && header.getLast? == some '"')

/-- A configured header: a bare name gets angle brackets. -/
def includeTarget (header : String) : String :=
  let name := Text.trim header.toList
  String.ofList (if isWrapped name then name else ['<'] ++ name ++ ['>'])

def guardOpening (config : Config) : List Directive :=
  match config.includeGuard with
  | .none => []
  | .pragmaOnce => [.pragmaOnce]
  | .cStyle =>
      [.ifndef config.includeGuardMacro, .define config.includeGuardMacro "" ""]

def guardClosing (config : Config) : List Directive :=
  match config.includeGuard with
  | .cStyle => [.endifOf config.includeGuardMacro]
  | .none | .pragmaOnce => []

def prologue (config : Config) (timestamp : Option Timestamp) : List Piece :=
  config.preamble.map (fun line => .code (.line line)) ++
    [.code (.line
      ("// Generated by enumwright " ++ generatorVersion ++ ". Do not edit by hand."))] ++
    timestamp.toList.map (fun time => .code (.line ("// Generated at " ++ time.text))) ++
    (guardOpening config).map .directive ++
    [.code .blank] ++
    standardIncludes.map (fun name => .directive (.includeFile ("<" ++ name ++ ">"))) ++
    config.extraIncludes.map (fun name => .directive (.includeFile (includeTarget name))) ++
    [.code .blank]

/-- The wrapper structs in the namespace of the configuration, a blank line after each. -/
def wrappers (config : Config) (models : List Model) : List Step :=
  let structs := models.flatMap fun model => (Cpp.wrapper config model).steps ++ [.blank]
  let name := config.namespaceText
  if name.isEmpty then structs
  else
    [.line ("namespace " ++ name), .line "\x7b", .blank] ++ structs ++
      [.line ("\x7d // namespace " ++ name), .blank]

def specializations (config : Config) (models : List Model) : List Step :=
  if models.isEmpty then []
  else
    [.line ("namespace " ++ config.runtimeNamespace), .line "\x7b"] ++
      List.flatten ((models.map (Cpp.enumInfo config)).intersperse [.blank]) ++
      [.line ("\x7d // namespace " ++ config.runtimeNamespace), .blank]

def pieces (config : Config) (models : List Model) (timestamp : Option Timestamp) : List Piece :=
  prologue config timestamp ++ Cpp.Runtime.pieces config ++ [.code .blank] ++
    (wrappers config models).map .code ++
    (specializations config models).map .code ++
    (guardClosing config).map .directive

def endLines (ending : LineEnding) (text : String) : String :=
  match ending with
  | .lf => text
  | .crlf => String.ofList (text.toList.flatMap fun c => if c = '\n' then ['\r', '\n'] else [c])

def render (config : Config) (models : List Model) (timestamp : Option Timestamp) : String :=
  endLines config.lineEnding
    (Cpp.layout config.indent ((pieces config models timestamp).map Piece.step))

/-- Generates the header, with a line for the time if one is given. -/
def generate (config : Config) (definitions : List Definition)
    (timestamp : Option Timestamp) : Except Failure String := do
  config.check
  Validation.validate config definitions
  let models ← Model.buildAll config definitions
  return render config models timestamp

end Header

end EnumHeader
