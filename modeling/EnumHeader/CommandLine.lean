import EnumHeader.Command.Generate
import EnumHeader.Command.Info
import EnumHeader.CommandLine.Scan

/-!
# Command lines

What a command line asks for. Some switches say where the sources are and can stand before or after
the verb; the others follow the verb they belong to. Without a verb the header is generated. What
the command line leaves open is taken from the environment, and then from the defaults.
-/

namespace EnumHeader

set_option autoImplicit false

open Command (Delivery ReportForm Sources)
open CommandLine

namespace CommandLine

inductive Verb where
  | generate
  | validate
  | info
  | init
  deriving Repr, DecidableEq, Inhabited

def Verb.text : Verb → String
  | .generate => "generate"
  | .validate => "validate"
  | .info => "info"
  | .init => "init"

def Verb.all : List Verb :=
  [.generate, .validate, .info, .init]

def Verb.ofText? (text : String) : Option Verb :=
  all.find? (·.text == text)

def sharedSwitches : List Switch :=
  [⟨"config", some 'c', .path⟩, ⟨"enums", some 'e', .path⟩, ⟨"verbose", some 'v', .counter⟩,
    ⟨"quiet", some 'q', .flag⟩, ⟨"help", some 'h', .notice .help⟩,
    ⟨"version", some 'V', .notice .version⟩]

def Verb.switches : Verb → List Switch
  | .generate =>
      [⟨"output", some 'o', .path⟩, ⟨"print", none, .flag⟩, ⟨"check", none, .flag⟩]
  | .validate => [⟨"config-only", none, .flag⟩]
  | .info => [⟨"format", none, .word ["pretty", "json"]⟩, ⟨"enum", none, .text⟩]
  | .init => [⟨"force", some 'f', .flag⟩, ⟨"format", none, .word ["toml", "json"]⟩]

/-- The values of the variables that stand in for switches. -/
structure Environment where
  config : Option String := none
  definitions : Option String := none
  deriving Repr, DecidableEq, Inhabited

def Environment.read {m : Type → Type} [Monad m] (valueOf : String → m (Option String)) :
    m Environment := do
  return { config := ← valueOf "ENUMWRIGHT_CONFIG", definitions := ← valueOf "ENUMWRIGHT_ENUMS" }

inductive Request where
  | generate (output : Path) (delivery : Delivery)
  | validate (configOnly : Bool)
  | info (form : ReportForm) (name : Option String)
  | init (force : Bool) (format : Document.Format)
  deriving Repr, DecidableEq, Inhabited

inductive Reading where
  | command (sources : Sources) (request : Request)
  | notice (notice : Notice) (verb : Option Verb)
  | usage
  deriving Repr, Inhabited

/-- What was given before the verb, and the verb with what was given after it. -/
structure Parsed where
  before : Given
  verb : Option (Verb × Given)
  deriving Repr, Inhabited

def given (name : String) (levels : List Given) : Option String :=
  levels.findSome? (·.lookup name)

namespace Parsed

/-- The levels at which shared switches can be given, the deciding one first. -/
def levels (parsed : Parsed) : List Given :=
  match parsed.verb with
  | some (_, after) => [after, parsed.before]
  | none => [parsed.before]

/-- A shared path. A variable is read at every level that lacks the switch, and no level takes an
empty path. -/
def sharedPath (parsed : Parsed) (name : String) (fallback : Option String) :
    Except Stop (Option Path) :=
  if fallback = some "" ∧ parsed.levels.any (fun level => (level.lookup name).isNone) then
    .error .usage
  else .ok ((given name parsed.levels <|> fallback).map Path.ofText)

def sources (parsed : Parsed) (environment : Environment) : Except Stop Sources := do
  let config ← parsed.sharedPath "config" environment.config
  let definitions ← parsed.sharedPath "enums" environment.definitions
  return { config, definitions := definitions.getD (Path.ofText "enums.toml") }

def has (after : Given) (name : String) : Bool :=
  (after.lookup name).isSome

def defaultOutput : Path :=
  Path.ofText "generated_enums.h"

def request (parsed : Parsed) : Except Stop Request :=
  match parsed.verb with
  | none => .ok (.generate defaultOutput .write)
  | some (.generate, after) =>
      let output := ((after.lookup "output").map Path.ofText).getD defaultOutput
      match has after "print", has after "check" with
      | true, true => .error .usage
      | true, false => .ok (.generate output .print)
      | false, true => .ok (.generate output .check)
      | false, false => .ok (.generate output .write)
  | some (.validate, after) => .ok (.validate (has after "config-only"))
  | some (.info, after) =>
      let form := if after.lookup "format" = some "json" then ReportForm.json else .pretty
      .ok (.info form (after.lookup "enum"))
  | some (.init, after) =>
      let format := if after.lookup "format" = some "json" then Document.Format.json else .toml
      .ok (.init (has after "force") format)

end Parsed

/-- What may follow the word `help`: nothing, or one verb. -/
def isHelpTopic (words : List String) : Bool :=
  match words with
  | [] => true
  | [topic] => topic == "help" || (Verb.ofText? topic).isSome
  | _ => false

/-- The scan of the words before the verb, and the verb with the words after it. A word that a
switch waits for is no verb. -/
def scanToVerb (scan : Scan) : List String → Except Stop (Scan × Option (Verb × List String))
  | [] => .ok (scan, none)
  | word :: rest =>
      if scan.closed || scan.awaitsValue then do scanToVerb (← scan.word sharedSwitches word) rest
      else
        match Verb.ofText? word with
        | some verb => .ok (scan, some (verb, rest))
        | none =>
            if word = "help" then
              .error (if isHelpTopic rest then .notice .help else .usage)
            else do scanToVerb (← scan.word sharedSwitches word) rest

/-- What was given at each level. A switch before the verb that still waits for another one is
settled after the words that follow the verb. -/
def parseLevels (words : List String) : Except (Stop × Option Verb) Parsed := do
  let (before, found) ← (scanToVerb {} words).mapError (·, none)
  match found with
  | none => do
      let before ← before.settle.mapError (·, none)
      return ⟨before.given, none⟩
  | some (verb, rest) => do
      let after ← (do (← Scan.words (verb.switches ++ sharedSwitches) {} rest).settle
        : Except Stop Scan).mapError (·, some verb)
      let before ← before.settle.mapError (·, none)
      return ⟨before.given, some (verb, after.given)⟩

def read (environment : Environment) (words : List String) : Reading :=
  match parseLevels words with
  | .error (.notice notice, verb) => .notice notice verb
  | .error (.usage, _) => .usage
  | .ok parsed =>
      match parsed.sources environment, parsed.request with
      | .ok sources, .ok request => .command sources request
      | _, _ => .usage

end CommandLine

end EnumHeader
