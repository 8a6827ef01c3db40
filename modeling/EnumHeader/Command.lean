import EnumHeader.Command.Init
import EnumHeader.Command.Validate
import EnumHeader.CommandLine

/-!
# Running a command line

From the words of a command line to what the program prints and the code it exits with. Everything
that is not calculated here is asked of the host.
-/

namespace EnumHeader

set_option autoImplicit false

variable {m : Type → Type} [Monad m] [Host m]

namespace Command

open CommandLine

inductive Outcome where
  | finished (output : String)
  | failed (failure : Failure)
  | misused
  deriving Repr, DecidableEq, Inhabited

namespace Outcome

def exitCode : Outcome → UInt8
  | .finished _ => 0
  | .failed _ => 1
  | .misused => 2

def output : Outcome → String
  | .finished text => text
  | .failed _ | .misused => ""

end Outcome

def usageText : String :=
  "usage: enumwright [-c PATH] [-e PATH] [-v]... [-q] [generate|validate|info|init] [SWITCH]...\n"

def noticeText (verb : Option Verb) : Notice → String
  | .help => usageText
  | .version =>
      match verb with
      | some verb => "enumwright-" ++ verb.text ++ " " ++ Header.generatorVersion ++ "\n"
      | none => "enumwright " ++ Header.generatorVersion ++ "\n"

/-- Does what a command line asks for. The result is the output of the program. -/
def perform (sources : Sources) : Request → ExceptT Failure m String
  | .generate output delivery => generate sources output delivery
  | .validate configOnly => validate sources configOnly
  | .info form name => info sources form name
  | .init force format => init force format

def run (environment : Environment) (words : List String) : m Outcome := do
  match CommandLine.read environment words with
  | .usage => return .misused
  | .notice notice verb => return .finished (noticeText verb notice)
  | .command sources request =>
      match ← (perform sources request).run with
      | .ok output => return .finished output
      | .error failure => return .failed failure

end Command

end EnumHeader
